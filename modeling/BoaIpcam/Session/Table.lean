import BoaIpcam.Session.Privilege

/-!
# The account table

What the account pages and commands make of the table over a whole run: the names of the occupied
slots stay different, a free slot holds nothing, and a request writes one slot, from the name and
the password it gives. `uri_user_mod` is the exception. It goes on after it has reported that the
name exists, and it takes the length of a name or a password that may not have been given.
-/
namespace BoaIpcam

open LinkedList TransitionSystem

/-! ## Requests -/

/-- A request of the account pages and commands, with the arguments the handler reads. -/
inductive AccountRequest where
  | addUser (value : List UInt8)
  | delUser (value : List UInt8)
  | userMod (args : List (List UInt8 × List UInt8))
  | userDel (args : List (List UInt8 × List UInt8))

namespace AccountRequest

/-- The handler that the request runs. `uri_user_del` takes the value of the first argument. -/
def command : AccountRequest → Option Command
  | .addUser value => some (.addUser value)
  | .delUser value => some (.delUser value)
  | .userMod args => some (.userMod args)
  | .userDel args => args.head?.map fun arg => .userDel arg.2

/-- The authority that the tables ask for. -/
def authority (build : Build) (request : AccountRequest) : Nat :=
  (request.command.map (Command.authority build)).getD build.admin

/-- The user name a request gives. -/
def names (request : AccountRequest) : Option (List UInt8) := request.command.bind Command.names

/-- The password a request gives. -/
def password : AccountRequest → Option (List UInt8)
  | .addUser value =>
    (splitAtByte 58 value).bind fun pair => (splitAtByte 58 pair.2).map Prod.fst
  | .userMod args => (Server.userModArgs args (none, none, ascii "1")).2.1
  | _ => none

end AccountRequest

namespace Server

/-- The handler of a request. Without a query string `cmd_arg[0].value` is null, and
`uri_user_del` compares it with the first name. -/
def answer (build : Build) (rounds : Nat) (s : Server) (r : ReqId) (req : Request)
    (request : AccountRequest) : Option (List UInt8 × Server) :=
  match request.command with
  | some command => s.handle build rounds r req command
  | none =>
    if req.authority = build.admin ∧ ∃ i ∈ List.range build.acountNum, (s.accounts i).name ≠ []
    then none else some ([], s)

/-- The `USER_INFO` that `uri_user_mod` hands to `ControlSystemData`, when it does. The inner
none is the variable before anything is written to it. -/
def userModRecord (build : Build) (s : Server) (req : Request)
    (args : List (List UInt8 × List UInt8)) : Option (Option Account) :=
  if args.length ≤ 1 ∨ args.length ≥ 4 then none
  else
    match userModUser build args, req.connect with
    | some user, some connect =>
      if StrCaseEq user.name (s.userName (s.heap connect).user) then some none
      else if req.authority ≠ build.admin then none
      else
        match (List.range build.acountNum).find? fun i => (s.accounts i).name = [] with
        | some k => if 0 < k then some (some user) else none
        | none => none
    | _, _ => none

/-- The request is about the account it is logged in as. -/
def AsksForOwn (s : Server) (req : Request) (request : AccountRequest) : Prop :=
  ∃ n connect, request.names = some n ∧ req.connect = some connect ∧
    StrCaseEq n (s.userName (s.heap connect).user)

/-- `uri_user_mod` would write a name that is already taken into a free slot. -/
def AddsTwin (build : Build) (s : Server) (req : Request) (args : List (List UInt8 × List UInt8)) :
    Prop :=
  ∃ user connect k i, userModUser build args = some user ∧ req.connect = some connect ∧
    ¬StrCaseEq user.name (s.userName (s.heap connect).user) ∧ req.authority = build.admin ∧
    (List.range build.acountNum).find? (fun i => (s.accounts i).name = []) = some k ∧ 0 < k ∧
    i < build.acountNum ∧ StrCaseEq user.name (s.accounts i).name

end Server

/-- The requests that the handlers treat well. An account that passes the checks has a name;
`uri_user_mod` is given the name and, unless the name is refused, the password, and the name is
not one it would give to a second slot; `uri_user_del` has an argument. -/
def WellAsked (build : Build) (s : Server) (req : Request) : AccountRequest → Prop
  | .addUser value => ∀ user, Server.parseUser build value = some user → user.name ≠ []
  | .delUser _ => True
  | .userMod args => 2 ≤ args.length → args.length ≤ 3 →
      (∃ userName, (Server.userModArgs args (none, none, ascii "1")).1 = some userName ∧
        (build.minUserSize ≤ userName.length → userName.length ≤ build.maxUserSize →
          (Server.userModArgs args (none, none, ascii "1")).2.1 ≠ none)) ∧
      (∀ user, userModUser build args = some user → user.name ≠ []) ∧ ¬s.AddsTwin build req args
  | .userDel args => args ≠ []

/-- The account requests of an action are well asked. -/
def WellAskedAct (build : Build) (sys : System) (act : Act) : Prop :=
  ∀ r command req request, act = .command r command → sys.server.requests r = some req →
    req.authority ≤ command.authority build → request.command = some command →
    WellAsked build sys.server req request

/-! ## What a request may do -/

/-- The occupied slots have different names, ignoring case. -/
def DistinctNames (build : Build) (accounts : Nat → Account) : Prop :=
  ∀ i j, i < build.acountNum → j < build.acountNum → (accounts i).name ≠ [] →
    StrCaseEq (accounts i).name (accounts j).name → i = j

/-- A free slot has no password and no authority. -/
def FreeSlotsClear (build : Build) (accounts : Nat → Account) : Prop :=
  ∀ i, i < build.acountNum → (accounts i).name = [] → accounts i = ⟨[], [], build.none⟩

/-- The answer reports an error. -/
def ErrorAnswer (out : List UInt8) : Prop :=
  ascii "The specific user was existed!" <+: out ∨ ascii "The user list was full!" <+: out ∨
    ascii "NG " <+: out ∨ ascii "UA " <+: out

instance (out : List UInt8) : Decidable (ErrorAnswer out) :=
  inferInstanceAs (Decidable (_ ∨ _ ∨ _ ∨ _))

/-- What an account request may do: it writes at most one slot, and nothing when it reports an
error; the slot is cleared under the name it has, or it gets the password the request gives, with
the name the request gives or its own. What is handed to `ControlSystemData` is what the request
gives, unless it is about its own account. -/
structure AccountStep (build : Build) (s : Server) (req : Request) (request : AccountRequest)
    (out : List UInt8) (s' : Server) : Prop where
  /-- One slot is written at most. -/
  oneSlot : ∃ k, ∀ j, j ≠ k → s'.accounts j = s.accounts j
  /-- An error writes nothing. -/
  refused : ErrorAnswer out → s'.accounts = s.accounts ∧ s'.userAuthMode = s.userAuthMode
  /-- What is written is what the request gives. -/
  given : ∀ k, s'.accounts k ≠ s.accounts k → ∃ n, request.names = some n ∧
    ((s'.accounts k = ⟨[], [], build.none⟩ ∧ StrCaseEq n (s.accounts k).name) ∨
      (request.password = some (s'.accounts k).passwd ∧
        ((s'.accounts k).name = n ∨
          ((s'.accounts k).name = (s.accounts k).name ∧ StrCaseEq n (s.accounts k).name))))
  /-- So is what is handed over. -/
  handedOver : ¬s.AsksForOwn req request → ∀ args record, request = .userMod args →
    s.userModRecord build req args = some record →
    ∃ user, record = some user ∧ request.names = some user.name ∧
      request.password = some user.passwd

/-- The ways an account request ends. A slot that is written gets a name that it has already, or
that no slot has. -/
inductive TableEdit (build : Build) (s : Server) (request : AccountRequest) (out : List UInt8)
    (s' : Server) : Prop
  | keep (same : s' = s)
  | write {k : Nat} {account : Account} {n : List UInt8} (inside : k < build.acountNum)
      (table : s'.accounts = Function.update s.accounts k account) (accepted : ¬ErrorAnswer out)
      (named : request.names = some n) (password : request.password = some account.passwd)
      (occupied : account.name ≠ [])
      (name : account.name = n ∨
        (account.name = (s.accounts k).name ∧ StrCaseEq n (s.accounts k).name))
      (fresh : StrCaseEq account.name (s.accounts k).name ∨
        ∀ j < build.acountNum, ¬StrCaseEq account.name (s.accounts j).name)
  | clear {k : Nat} {n : List UInt8}
      (table : s'.accounts = Function.update s.accounts k ⟨[], [], build.none⟩)
      (accepted : ¬ErrorAnswer out) (named : request.names = some n)
      (same : StrCaseEq n (s.accounts k).name)

section
variable {build : Build} {rounds : Nat} {s s' : Server} {r : ReqId} {req : Request}
  {request : AccountRequest} {out : List UInt8}

/-- A slot may be given a name that no other slot has. -/
theorem DistinctNames.update {accounts : Nat → Account} {k : Nat} {account : Account}
    (distinct : DistinctNames build accounts)
    (alone : account.name ≠ [] → ∀ j < build.acountNum, j ≠ k →
      ¬StrCaseEq account.name (accounts j).name) :
    DistinctNames build (Function.update accounts k account) := by
  intro i j insideI insideJ occupied same
  by_cases hereI : i = k
  · by_cases hereJ : j = k
    · rw [hereI, hereJ]
    · rw [hereI, Function.update_self] at occupied same
      rw [Function.update_of_ne hereJ] at same
      exact absurd same (alone occupied j insideJ hereJ)
  · rw [Function.update_of_ne hereI] at occupied same
    by_cases hereJ : j = k
    · rw [hereJ, Function.update_self] at same
      have named : account.name ≠ [] := by
        intro empty
        rw [empty] at same
        exact occupied (strCaseEq_nil_right.mp same)
      exact absurd same.symm (alone named i insideI hereI)
    · rw [Function.update_of_ne hereJ] at same
      exact distinct i j insideI insideJ occupied same

/-- The names stay different. -/
theorem TableEdit.distinct (edit : TableEdit build s request out s')
    (distinct : DistinctNames build s.accounts) : DistinctNames build s'.accounts := by
  cases edit with
  | keep same =>
    rw [same]
    exact distinct
  | @write k account n insideK table accepted named password occupied name fresh =>
    rw [table]
    apply distinct.update
    intro _ j inside apart same
    rcases fresh with old | absent
    · -- the slot had the name before, so the two slots had the same one
      have before : StrCaseEq (s.accounts j).name (s.accounts k).name := same.symm.trans old
      have occupied' : (s.accounts j).name ≠ [] := by
        intro empty
        rw [empty] at same
        exact occupied (strCaseEq_nil_right.mp same)
      exact apart (distinct j k inside insideK occupied' before)
    · exact absent j inside same
  | clear table accepted named same =>
    rw [table]
    apply distinct.update
    intro occupied
    exact absurd rfl occupied

/-- The free slots stay clear. -/
theorem TableEdit.clear_slots (edit : TableEdit build s request out s')
    (clear : FreeSlotsClear build s.accounts) : FreeSlotsClear build s'.accounts := by
  have updated : ∀ k account, (account.name = [] → account = ⟨[], [], build.none⟩) →
      FreeSlotsClear build (Function.update s.accounts k account) := by
    intro k account empty i inside free
    by_cases here : i = k
    · rw [here, Function.update_self] at free ⊢
      exact empty free
    · rw [Function.update_of_ne here] at free ⊢
      exact clear i inside free
  cases edit with
  | keep same =>
    rw [same]
    exact clear
  | write inside table accepted named password occupied name fresh =>
    rw [table]
    exact updated _ _ fun free => absurd free occupied
  | clear table accepted named same =>
    rw [table]
    exact updated _ _ fun _ => rfl

/-- What is handed over for another account is what the request gives. -/
theorem userModRecord_given {args : List (List UInt8 × List UInt8)} {record : Option Account}
    (other : ¬s.AsksForOwn req (.userMod args))
    (handed : s.userModRecord build req args = some record) :
    ∃ user, record = some user ∧ (AccountRequest.userMod args).names = some user.name ∧
      (AccountRequest.userMod args).password = some user.passwd := by
  unfold Server.userModRecord at handed
  split at handed
  · cases handed
  split at handed
  case h_2 => cases handed
  rename_i user connect parsed held
  have given := userModUser_name parsed
  split at handed
  · rename_i own
    exact absurd ⟨user.name, connect, given.1, held, own⟩ other
  split at handed
  · cases handed
  split at handed
  case h_2 => cases handed
  split at handed
  · cases handed
    exact ⟨user, rfl, given⟩
  · cases handed

/-- An account request does no more than it may. -/
theorem TableEdit.step (edit : TableEdit build s request out s') :
    AccountStep build s req request out s' := by
  have handedOver : ¬s.AsksForOwn req request → ∀ args record, request = .userMod args →
      s.userModRecord build req args = some record →
      ∃ user, record = some user ∧ request.names = some user.name ∧
        request.password = some user.passwd := by
    intro other args record page handed
    subst page
    exact userModRecord_given other handed
  cases edit with
  | keep same =>
    subst same
    exact ⟨⟨0, fun _ _ => rfl⟩, fun _ => ⟨rfl, rfl⟩, fun _ changed => absurd rfl changed, handedOver⟩
  | @write k account n inside table accepted named password occupied name fresh =>
    refine ⟨⟨k, fun j apart => ?_⟩, fun error => absurd error accepted, fun j changed => ?_,
      handedOver⟩
    · rw [table, Function.update_of_ne apart]
    · rw [table] at changed ⊢
      have here := eq_of_changed changed
      rw [here, Function.update_self]
      exact ⟨n, named, .inr ⟨password, name⟩⟩
  | @clear k n table accepted named same =>
    refine ⟨⟨k, fun j apart => ?_⟩, fun error => absurd error accepted, fun j changed => ?_,
      handedOver⟩
    · rw [table, Function.update_of_ne apart]
    · rw [table] at changed ⊢
      have here := eq_of_changed changed
      rw [here, Function.update_self]
      exact ⟨n, named, .inl ⟨rfl, same⟩⟩

/-! ## The handlers -/

/-- `add_user` gives the password it writes. -/
theorem parseUser_password {value : List UInt8} {user : Account}
    (parsed : Server.parseUser build value = some user) :
    (AccountRequest.addUser value).password = some user.passwd := by
  unfold Server.parseUser at parsed
  split at parsed
  · cases parsed
  rename_i userName rest given
  split at parsed
  · cases parsed
  split at parsed
  · cases parsed
  rename_i userPass auth given'
  split_ifs at parsed
  cases parsed
  simp [AccountRequest.password, given, given']

/-- An answer that starts with another letter reports no error. -/
theorem not_errorAnswer {c : UInt8} {rest : List UInt8} (letter : c ∉ ascii "TNU") :
    ¬ErrorAnswer (c :: rest) := by
  have first : ∀ d : UInt8, ∀ text : List UInt8, d ∈ ascii "TNU" → ¬(d :: text <+: c :: rest) := by
    intro d text member before
    rw [List.cons_prefix_cons] at before
    rw [before.1] at member
    exact letter member
  rintro (existed | full | failed | unauthorized)
  · exact first _ _ (by decide) existed
  · exact first _ _ (by decide) full
  · exact first _ _ (by decide) failed
  · exact first _ _ (by decide) unauthorized

/-- The account of the slot a connection belongs to is occupied when its name is given. -/
theorem own_edit {connect : Addr} {n : List UInt8} {account : Account} (valid : UsersValid build s)
    (guests : (s.heap connect).user = .guest → req.authority = build.viewer)
    (low : req.authority ≤ build.operator) (accepted : ¬ErrorAnswer out)
    (named : request.names = some n) (password : request.password = some account.passwd)
    (occupied : n ≠ []) (same : StrCaseEq n (s.userName (s.heap connect).user))
    (kept : account.name = (s.accounts (s.heap connect).userIdx).name) :
    TableEdit build s request out (s.writeAccount (s.heap connect).userIdx account) := by
  obtain ⟨i, inside, owner, index⟩ :=
    @owner_of_gate build s req connect (.addUser []) valid guests low (Nat.le_refl _)
  have same : StrCaseEq n (s.accounts i).name := by
    rw [owner] at same
    exact same
  rw [index] at kept ⊢
  have nonempty : account.name ≠ [] := by
    intro empty
    rw [← kept, empty] at same
    exact occupied (strCaseEq_nil_right.mp same)
  have old : StrCaseEq account.name (s.accounts i).name := by
    rw [kept]
    exact StrCaseEq.refl _
  exact .write inside rfl accepted named password nonempty (.inr ⟨kept, same⟩) (.inl old)

/-- What `add_user` does to the table. -/
theorem addUser_edit {value : List UInt8} (valid : UsersValid build s)
    (guests : ∀ connect, req.connect = some connect → (s.heap connect).user = .guest →
      req.authority = build.viewer)
    (gate : req.authority ≤ build.operator) (asked : WellAsked build s req (.addUser value))
    (handled : s.addUser build req value = some (out, s')) :
    TableEdit build s (.addUser value) out s' := by
  have ok : ¬ErrorAnswer (ascii "OK adduser\n") := not_errorAnswer (by decide)
  cases addUser_result handled with
  | refused answer => exact .keep rfl
  | own parsed held same lowered raised =>
    have password := parseUser_password parsed
    exact own_edit valid (guests _ held) gate ok (parseUser_name parsed) password
      (asked _ parsed) same rfl
  | @filled user connect k parsed held administrator later found =>
    have inside : k < build.acountNum := by
      rcases addUserLoop_mem found with blank | member
      · cases blank
      · exact List.mem_range.mp member
    have fresh : StrCaseEq user.name (s.accounts k).name ∨
        ∀ j < build.acountNum, ¬StrCaseEq user.name (s.accounts j).name := by
      by_cases same : StrCaseEq user.name (s.accounts k).name
      · exact .inl same
      · exact .inr fun j below => addUserLoop_absent found same j (List.mem_range.mpr below)
    exact .write inside rfl ok (parseUser_name parsed) (parseUser_password parsed)
      (asked user parsed) (.inl rfl) fresh

/-- No slot is reported when none has the name. -/
theorem existedReports_eq_nil {userName : List UInt8}
    (absent : ∀ i < build.acountNum, ¬StrCaseEq userName (s.accounts i).name) :
    existedReports build s userName = [] := by
  have nobody : ((List.range build.acountNum).filter fun i =>
      StrCaseEq userName (s.accounts i).name) = [] := by
    rw [List.filter_eq_nil_iff]
    intro i member
    simpa using absent i (List.mem_range.mp member)
  rw [existedReports, nobody]
  rfl

/-- `uri_user_mod` looks at its arguments only when there are two or three. -/
theorem userMod_counted {args : List (List UInt8 × List UInt8)}
    (count : ¬(2 ≤ args.length ∧ args.length ≤ 3))
    (handled : s.userMod build req args = some (out, s')) : s' = s := by
  unfold Server.userMod at handled
  rw [if_pos (by omega)] at handled
  cases handled
  rfl

/-- What `uri_user_mod` does to the table. -/
theorem userMod_edit {args : List (List UInt8 × List UInt8)} (valid : UsersValid build s)
    (guests : ∀ connect, req.connect = some connect → (s.heap connect).user = .guest →
      req.authority = build.viewer)
    (gate : req.authority ≤ build.admin) (asked : WellAsked build s req (.userMod args))
    (handled : s.userMod build req args = some (out, s')) :
    TableEdit build s (.userMod args) out s' := by
  have low : req.authority ≤ build.operator := Nat.le_trans gate (Nat.le_of_lt build.admin_lt)
  by_cases count : 2 ≤ args.length ∧ args.length ≤ 3
  case neg => exact .keep (userMod_counted count handled)
  obtain ⟨-, nonempty, single⟩ := asked count.1 count.2
  cases userMod_result handled with
  | refused answer => exact .keep rfl
  | full => exact .keep rfl
  | own parsed held same =>
    have given := userModUser_name parsed
    exact own_edit valid (guests _ held) low (by decide) given.1 given.2 (nonempty _ parsed) same rfl
  | @added user connect k parsed held other administrator later free =>
    have given := userModUser_name parsed
    have inside := List.mem_range.mp (List.mem_of_find?_eq_some free)
    have absent : ∀ j < build.acountNum, ¬StrCaseEq user.name (s.accounts j).name := by
      intro j below same
      exact single ⟨user, connect, k, j, parsed, held, other, administrator, free, later, below, same⟩
    have accepted :
        ¬ErrorAnswer (existedReports build s user.name ++ Server.userModAnswer user) := by
      rw [existedReports_eq_nil absent]
      exact not_errorAnswer (by decide)
    exact .write inside rfl accepted given.1 given.2 (nonempty user parsed) (.inl rfl) (.inr absent)

/-- What a deletion does to the table. -/
theorem delete_edit {value deleted refused : List UInt8} {found : Option Nat}
    (named : ∀ k, found = some k → StrCaseEq value (s.accounts k).name)
    (accepted : ¬ErrorAnswer deleted) (names : request.names = some value)
    (handled : s.deleteAccount build rounds req value found deleted refused = some (out, s')) :
    TableEdit build s request out s' := by
  rcases deleteAccount_result named handled with ⟨-, same⟩ | ⟨answer, k, slot, deletes⟩
  · exact .keep same
  · rw [← answer] at accepted
    exact .clear deletes.table accepted names deletes.named

/-- What an account request does to the table. -/
theorem answer_edit (valid : UsersValid build s)
    (guests : ∀ connect, req.connect = some connect → (s.heap connect).user = .guest →
      req.authority = build.viewer)
    (gate : req.authority ≤ request.authority build) (asked : WellAsked build s req request)
    (handled : s.answer build rounds r req request = some (out, s')) :
    TableEdit build s request out s' := by
  cases request with
  | addUser value => exact addUser_edit valid guests gate asked handled
  | delUser value =>
    exact delete_edit (fun _ => delUserSlot_named) (not_errorAnswer (by decide)) rfl handled
  | userMod args => exact userMod_edit valid guests gate asked handled
  | userDel args =>
    cases args with
    | nil => exact absurd rfl asked
    | cons arg rest =>
      exact delete_edit (fun _ => userDelSlot_named) (not_errorAnswer (by decide)) rfl handled

/-- `add_user` answers every request that has a connection. -/
theorem addUser_answers {value : List UInt8} {connect : Addr} (held : req.connect = some connect) :
    (s.addUser build req value).isSome := by
  unfold Server.addUser
  rw [held]
  split
  · rfl
  dsimp only
  split_ifs
  · rfl
  · rfl
  split
  · rfl
  · split_ifs <;> rfl

/-- `uri_user_mod` answers a request that has a connection when it is given what it reads. -/
theorem userMod_answers {args : List (List UInt8 × List UInt8)} {connect : Addr}
    (held : req.connect = some connect) (asked : WellAsked build s req (.userMod args)) :
    (s.userMod build req args).isSome := by
  unfold Server.userMod
  rw [held]
  split
  · rfl
  rename_i count
  obtain ⟨⟨userName, named, reads⟩, -, -⟩ := asked (by omega) (by omega)
  split
  · rename_i missing
    rw [missing] at named
    cases named
  rename_i userName' password auth given
  rw [given] at named reads
  cases named
  split
  · rfl
  rename_i size
  split
  · exact absurd rfl (reads (by omega) (by omega))
  dsimp only
  split_ifs
  · rfl
  · rfl
  · rfl
  · rfl
  split
  · split_ifs <;> rfl
  · rfl

end

/-! ## Along a run -/

/-- A request runs its handler. -/
theorem answer_eq_handle {build : Build} {rounds : Nat} {s : Server} {r : ReqId} {req : Request}
    {request : AccountRequest} {command : Command} (asks : request.command = some command) :
    s.answer build rounds r req request = s.handle build rounds r req command := by
  unfold Server.answer
  rw [asks]

/-- The handlers that are neither a login nor a logout are those of the account requests. -/
theorem exists_request {command : Command} {n : List UInt8} (named : command.names = some n) :
    ∃ request : AccountRequest, request.command = some command := by
  cases command with
  | login value mallocs => cases named
  | logout => cases named
  | addUser value => exact ⟨.addUser value, rfl⟩
  | delUser value => exact ⟨.delUser value, rfl⟩
  | userMod args => exact ⟨.userMod args, rfl⟩
  | userDel value => exact ⟨.userDel [([], value)], rfl⟩

/-- A command that writes the table names a user. -/
theorem TableWrite.names {build : Build} {s : Server} {req : Request} {command : Command}
    {accounts' : Nat → Account} (write : TableWrite build s req command accounts') :
    accounts' = s.accounts ∨ ∃ n, command.names = some n := by
  cases write with
  | keep => exact .inl rfl
  | own named => exact .inr ⟨_, named⟩
  | fill named => exact .inr ⟨_, named⟩
  | clear named => exact .inr ⟨_, named⟩

/-- What an action does to the table when its account requests are well asked. -/
theorem Step.edit {build : Build} {sys sys' : System} {act : Act}
    (valid : UsersValid build sys.server) (guests : RunningGuest build sys)
    (met : WellAskedAct build sys act) (step : Step build sys act sys') :
    sys'.server.accounts = sys.server.accounts ∨
      ∃ request out, TableEdit build sys.server request out sys'.server := by
  obtain ⟨-, same | ⟨r, req, command, rfl, live, write⟩⟩ := step.table valid guests
  · exact .inl same
  rcases write.names with same | ⟨n, named⟩
  · exact .inl same
  obtain ⟨request, asks⟩ := exists_request named
  obtain ⟨req', live', running, rfl | ⟨gate, rounds, out, server, handled, rfl⟩⟩ :=
    step.command_cases
  · exact .inl rfl
  have asked := met r command req' request rfl live' gate asks
  have gate' : req'.authority ≤ request.authority build := by
    rw [AccountRequest.authority, asks]
    exact gate
  rw [← answer_eq_handle asks] at handled
  exact .inr ⟨request, out, answer_edit valid
    (fun connect held => guests r running req' connect live' held) gate' asked handled⟩

/-- What the actions keep when their account requests are well asked. -/
structure TableKept (build : Build) (accounts : Nat → Account) (sys : System) : Prop where
  /-- An entry belongs to an account that there is. -/
  valid : UsersValid build sys.server
  /-- A running guest has the guest entry. -/
  guests : RunningGuest build sys
  /-- The names are different. -/
  distinct : DistinctNames build sys.server.accounts
  /-- Free slots stay clear. -/
  clear : FreeSlotsClear build accounts → FreeSlotsClear build sys.server.accounts

/-- It holds before the first request. -/
theorem TableKept.boot {build : Build} {accounts : Nat → Account} (mode : Nat)
    (distinct : DistinctNames build accounts) :
    TableKept build accounts (System.boot accounts mode) where
  valid _ _ slot := by cases slot
  guests _ running := by cases running
  distinct := distinct
  clear := id

/-- An action keeps it. -/
theorem TableKept.step {build : Build} {accounts : Nat → Account} {sys sys' : System} {act : Act}
    (kept : TableKept build accounts sys) (met : WellAskedAct build sys act)
    (step : Step build sys act sys') : TableKept build accounts sys' := by
  have valid := kept.valid.step step
  have guests := (step.table kept.valid kept.guests).1
  rcases step.edit kept.valid kept.guests met with same | ⟨request, out, edit⟩
  · refine ⟨valid, guests, ?_, fun start => ?_⟩
    · rw [same]
      exact kept.distinct
    · rw [same]
      exact kept.clear start
  · exact ⟨valid, guests, edit.distinct kept.distinct,
      fun start => edit.clear_slots (kept.clear start)⟩

/-- In every run from a table with different names, all of whose account requests are well asked:
the names of the occupied slots are different, and the free slots are clear if they were; and
whatever account request is asked next with the authority for it, if it is well asked, is answered
when it gives a name and a password to write, and does no more than an account request may. -/
theorem account_table_kept {build : Build} {accounts : Nat → Account} {mode : Nat} {acts : List Act}
    {sys : System} (distinct : DistinctNames build accounts)
    (run : Run (Step build) (WellAskedAct build) (System.boot accounts mode) acts sys) :
    DistinctNames build sys.server.accounts ∧
      (FreeSlotsClear build accounts → FreeSlotsClear build sys.server.accounts) ∧
      ∀ r req request, sys.running = some r → sys.server.requests r = some req →
        req.authority ≤ request.authority build → WellAsked build sys.server req request →
        (∀ rounds connect, req.connect = some connect →
          (∃ value, request = .addUser value) ∨ (∃ args, request = .userMod args) →
          (sys.server.answer build rounds r req request).isSome) ∧
        ∀ rounds out s', sys.server.answer build rounds r req request = some (out, s') →
          AccountStep build sys.server req request out s' := by
  have kept := Run.invariant (TableKept build accounts)
    (fun _ _ _ kept met step => kept.step met step) run (.boot mode distinct)
  refine ⟨kept.distinct, kept.clear, fun r req request running live gate asked => ⟨?_, ?_⟩⟩
  · rintro rounds connect held (⟨value, rfl⟩ | ⟨args, rfl⟩)
    · exact addUser_answers held
    · exact userMod_answers held asked
  · intro rounds out s' handled
    have edit := answer_edit kept.valid
      (fun connect held => kept.guests r running req connect live held) gate asked handled
    exact edit.step

/-- The names of the small table are different. -/
theorem smallAccounts_distinct : DistinctNames .small smallAccounts := by
  have slots : ∀ i < 4, ∀ j < 4, (smallAccounts i).name ≠ [] →
      StrCaseEq (smallAccounts i).name (smallAccounts j).name → i = j := by
    decide
  exact fun i j insideI insideJ => slots i insideI j insideJ

/-- The arguments of `uri_user_mod` for an operator. -/
def operatorArgs (name : String) : List (List UInt8 × List UInt8) :=
  [(ascii "name", ascii name), (ascii "password", ascii "x"), (ascii "group", ascii "1")]

/-- The administrator adds an account through the page and deletes it again. -/
theorem account_table_kept_add :
    ∃ sys req out s', Run (Step .small) (WellAskedAct .small) (System.boot smallAccounts 1)
        [.accept 0 1 0, .authorize 0 (some (ascii "admin:a")) plenty,
          .command 0 (.userMod (operatorArgs "eve"))] sys ∧
      sys.server.accounts 2 = ⟨ascii "eve", ascii "x", 1⟩ ∧
      DistinctNames .small sys.server.accounts ∧ FreeSlotsClear .small sys.server.accounts ∧
      sys.server.answer .small 4 0 req (.userDel [(ascii "name", ascii "eve")]) = some (out, s') ∧
      s'.accounts 2 = ⟨[], [], 3⟩ ∧
      AccountStep .small sys.server req (.userDel [(ascii "name", ascii "eve")]) out s' := by
  have met : ∀ sys : System,
      (∀ i ∈ List.range 4, ¬StrCaseEq (ascii "eve") (sys.server.accounts i).name) →
      WellAskedAct .small sys (.command 0 (.userMod (operatorArgs "eve"))) := by
    intro sys absent r command req request same live gate asks
    cases same
    have page : request = .userMod (operatorArgs "eve") := by
      cases request <;> simp_all [AccountRequest.command]
    have parsed : userModUser .small (operatorArgs "eve") = some ⟨ascii "eve", ascii "x", 1⟩ := by
      decide
    rw [page]
    refine fun _ _ => ⟨⟨ascii "eve", rfl, by decide⟩, fun user given => ?_, ?_⟩
    · rw [parsed] at given
      cases given
      decide
    · rintro ⟨user, connect, k, i, given, -, -, -, -, -, inside, taken⟩
      rw [parsed] at given
      cases given
      exact absent i (List.mem_range.mpr inside) taken
  obtain ⟨sys, run, facts⟩ := System.execAll_run .small 4
    (fun sys _ => decide (∀ i ∈ List.range 4, ¬StrCaseEq (ascii "eve") (sys.server.accounts i).name))
    (System.boot smallAccounts 1)
    [.accept 0 1 0, .authorize 0 (some (ascii "admin:a")) plenty,
      .command 0 (.userMod (operatorArgs "eve"))] (WellAskedAct .small)
    (fun sys => sys.running = some 0 ∧ sys.server.accounts 2 = ⟨ascii "eve", ascii "x", 1⟩ ∧
      (sys.server.requests 0).any (fun req => req.authority ≤ Build.small.admin ∧
        (sys.server.answer .small 4 0 req (.userDel [(ascii "name", ascii "eve")])).any
          (fun pair => pair.2.accounts 2 = ⟨[], [], 3⟩)) = true)
    (by
      intro act member sys checked
      simp only [List.mem_cons, List.not_mem_nil, or_false] at member
      rcases member with rfl | rfl | rfl
      · exact fun _ _ _ _ same => (by cases same)
      · exact fun _ _ _ _ same => (by cases same)
      · exact met sys (of_decide_eq_true checked))
    (by decide)
  obtain ⟨running, added, deleted⟩ := of_decide_eq_true facts
  obtain ⟨req, live, deleted⟩ := (Option.any_eq_true _ _).mp deleted
  obtain ⟨gate, deleted⟩ := of_decide_eq_true deleted
  obtain ⟨⟨out, s'⟩, answered, cleared⟩ := (Option.any_eq_true _ _).mp deleted
  have clear : FreeSlotsClear .small smallAccounts := by
    have slots : ∀ i < 4, (smallAccounts i).name = [] → smallAccounts i = ⟨[], [], 3⟩ := by
      decide
    exact slots
  obtain ⟨distinct, kept, steps⟩ := account_table_kept smallAccounts_distinct run
  have step := (steps 0 req (.userDel [(ascii "name", ascii "eve")]) running live gate
    (by simp [WellAsked])).2 4 out s' answered
  exact ⟨sys, req, out, s', run, added, distinct, kept clear, answered, of_decide_eq_true cleared,
    step⟩

/-- Through the page the administrator gives the name of an account to a second slot, and the
answer says that the name exists; without the password the page reads through a null pointer. -/
theorem userMod_breaks_table :
    DistinctNames .small smallAccounts ∧
    ∃ sys req out s', Run (Step .small) (fun _ _ => True) (System.boot smallAccounts 0)
        [.accept 0 1 0, .authorize 0 (some (ascii "admin:a")) plenty] sys ∧
      sys.running = some 0 ∧ sys.server.requests 0 = some req ∧
      req.authority ≤ (AccountRequest.userMod (operatorArgs "Bob")).authority .small ∧
      sys.server.answer .small 4 0 req (.userMod (operatorArgs "Bob")) = some (out, s') ∧
      ErrorAnswer out ∧ s'.accounts 2 ≠ sys.server.accounts 2 ∧
      s'.userAuthMode ≠ sys.server.userAuthMode ∧ ¬DistinctNames .small s'.accounts ∧
      sys.server.answer .small 4 0 req
        (.userMod [(ascii "name", ascii "eve"), (ascii "group", ascii "1")]) = none := by
  obtain ⟨sys, run, facts⟩ := System.execAll_run .small 4 (fun _ _ => true)
    (System.boot smallAccounts 0)
    [.accept 0 1 0, .authorize 0 (some (ascii "admin:a")) plenty] (fun _ _ => True)
    (fun sys => sys.running = some 0 ∧
      (sys.server.requests 0).any (fun req => req.authority ≤ Build.small.admin ∧
        (sys.server.answer .small 4 0 req (.userMod (operatorArgs "Bob"))).any (fun pair =>
          ErrorAnswer pair.1 ∧ pair.2.accounts 2 ≠ sys.server.accounts 2 ∧
          pair.2.userAuthMode ≠ sys.server.userAuthMode ∧
          (pair.2.accounts 1).name ≠ [] ∧
          StrCaseEq (pair.2.accounts 1).name (pair.2.accounts 2).name) ∧
        (sys.server.answer .small 4 0 req
          (.userMod [(ascii "name", ascii "eve"), (ascii "group", ascii "1")])).isNone = true) =
        true)
    (by simp) (by decide)
  obtain ⟨running, facts⟩ := of_decide_eq_true facts
  obtain ⟨req, live, facts⟩ := (Option.any_eq_true _ _).mp facts
  obtain ⟨gate, facts, missing⟩ := of_decide_eq_true facts
  obtain ⟨⟨out, s'⟩, answered, facts⟩ := (Option.any_eq_true _ _).mp facts
  obtain ⟨error, changed, mode, occupied, twin⟩ := of_decide_eq_true facts
  refine ⟨smallAccounts_distinct, sys, req, out, s', run, running, live, gate, answered, error,
    changed, mode, fun distinct => ?_, Option.isNone_iff_eq_none.mp missing⟩
  exact absurd (distinct 1 2 (by decide) (by decide) occupied twin) (by decide)

end BoaIpcam
