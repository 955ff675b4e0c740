import BoaIpcam.Session.CheckUser

/-!
# The account commands

`add_user` and `del_user` of `appro_api.c` and the pages `uri_user_mod` and `uri_user_del` of
`request.c`. A handler appends text to the answer of its request and changes the account table;
it is none where the source reads through a null pointer, or where `revoke_connection` is not
over after the given number of rounds.

A request edits its own account in the slot `connect->user_idx`, found by comparing the live
name of its connection; every other account only as an administrator.
-/
namespace BoaIpcam

namespace Server

/-- Write a slot of the account table. From then on everybody has to log in. -/
def writeAccount (s : Server) (k : Nat) (account : Account) : Server :=
  { s with accounts := Function.update s.accounts k account, userAuthMode := 1 }

/-- The arguments of `add_user`, `name:password:authority`, when they pass its checks. -/
def parseUser (build : Build) (value : List UInt8) : Option Account :=
  match splitAtByte 58 value with
  | none => none
  | some (userName, rest) =>
    if userName.length > build.maxUserSize ∨ userName.length < build.minUserSize then none
    else
      match splitAtByte 58 rest with
      | none => none
      | some (userPass, auth) =>
        if userPass.length > build.maxPassSize then none
        else if userPass.length < build.minPwdLen then none
        else if atoi auth > build.viewer ∨ atoi auth < build.admin then none
        else some ⟨userName, userPass, (atoi auth).toNat⟩

/-- The loop of `add_user`: the slot with that name, and the first free one when there is none.
The second argument is `blank_idx` so far. -/
def addUserLoop (accounts : Nat → Account) (userName : List UInt8) :
    Option Nat → List Nat → Option Nat
  | blank, [] => blank
  | blank, i :: rest =>
    let blank := if blank = none ∧ (accounts i).name = [] then some i else blank
    if StrCaseEq userName (accounts i).name then some i
    else addUserLoop accounts userName blank rest

/-- The branch of `add_user` for the account the request is logged in as. -/
def addUserOwn (s : Server) (connect : Addr) (user : Account) : List UInt8 × Server :=
  let own := s.userName (s.heap connect).user
  let idx := (s.heap connect).userIdx
  let current := (s.accounts idx).authority
  if user.authority > current ∧ StrCaseEq (s.accounts 0).name own then (ascii "NG adduser\n", s)
  else if user.authority < current ∧ ¬StrCaseEq (s.accounts 0).name own then
    (ascii "UA adduser\n", s)
  else
    (ascii "OK adduser\n", s.writeAccount idx
      { s.accounts idx with passwd := user.passwd, authority := user.authority })

/-- `add_user`. -/
def addUser (build : Build) (s : Server) (req : Request) (value : List UInt8) :
    Option (List UInt8 × Server) :=
  match parseUser build value with
  | none => some (ascii "NG adduser\n", s)
  | some user =>
    match req.connect with
    | none => none
    | some connect =>
      if StrCaseEq user.name (s.userName (s.heap connect).user) then
        some (s.addUserOwn connect user)
      else if req.authority ≠ build.admin then some (ascii "UA adduser\n", s)
      else
        match addUserLoop s.accounts user.name none (List.range build.acountNum) with
        | none => some (ascii "NG adduser\n", s)
        | some k =>
          if 0 < k then some (ascii "OK adduser\n", s.writeAccount k user)
          else some (ascii "NG adduser\n", s)

/-- The slot a deletion may clear: not the first one, and for one brand not the second. -/
def Deletable (build : Build) (k : Nat) : Prop := k ≠ 0 ∧ ¬(build.brandDlink = true ∧ k = 1)

instance (build : Build) (k : Nat) : Decidable (Deletable build k) :=
  inferInstanceAs (Decidable (_ ∧ _))

/-- The part the two deletions share: the slot is cleared before the connections are asked for
by the name it had. -/
def clearAccount (build : Build) (rounds : Nat) (s : Server) (k : Nat) (value : List UInt8) :
    Option Server :=
  (s.writeAccount k ⟨[], [], build.none⟩).revokeConnection rounds value

/-- The deletions: an administrator clears the slot that was found. The last arguments are the
answers. -/
def deleteAccount (build : Build) (rounds : Nat) (s : Server) (req : Request) (value : List UInt8)
    (found : Option Nat) (deleted refused : List UInt8) : Option (List UInt8 × Server) :=
  if req.authority = build.admin then
    match found with
    | none => some (refused, s)
    | some k =>
      if Deletable build k then
        (s.clearAccount build rounds k value).map fun s => (deleted, s)
      else some (refused, s)
  else some (refused, s)

/-- The slot that `del_user` finds for a name. -/
def delUserSlot (build : Build) (s : Server) (value : List UInt8) : Option Nat :=
  (List.range build.acountNum).find? fun i => StrCaseEq value (s.accounts i).name

/-- `del_user`. -/
def delUser (build : Build) (rounds : Nat) (s : Server) (req : Request) (value : List UInt8) :
    Option (List UInt8 × Server) :=
  s.deleteAccount build rounds req value (s.delUserSlot build value) (ascii "OK deluser\n")
    (ascii "NG deluser\n")

/-- The arguments of `uri_user_mod`: the last value given under each of the three names, with the
default group. -/
def userModArgs : List (List UInt8 × List UInt8) →
    Option (List UInt8) × Option (List UInt8) × List UInt8 →
    Option (List UInt8) × Option (List UInt8) × List UInt8
  | [], found => found
  | (key, value) :: rest, (name, password, group) =>
    userModArgs rest <|
      if key = ascii "name" then (some value, password, group)
      else if key = ascii "password" then (name, some value, group)
      else if key = ascii "group" then (name, password, value)
      else (name, password, group)

/-- The names of the groups in the answer of `uri_user_mod`. -/
def groupnum : List String := ["admin", "user", "guest"]

/-- The answer of `uri_user_mod` when it has added an account. -/
def userModAnswer (user : Account) : List UInt8 :=
  ascii "user=" ++ user.name ++ ascii "\r\npassword=********\r\ngroup=" ++
    ascii (groupnum.getD user.authority "") ++ ascii "\r\n"

/-- `uri_user_mod`. The loop over the slots reports an account with the same name for each one it
meets, and goes on. -/
def userMod (build : Build) (s : Server) (req : Request) (args : List (List UInt8 × List UInt8)) :
    Option (List UInt8 × Server) :=
  if args.length ≤ 1 ∨ args.length ≥ 4 then some ([], s)
  else
    match userModArgs args (none, none, ascii "1") with
    | (none, _, _) => none
    | (some userName, password, auth) =>
      if userName.length > build.maxUserSize ∨ userName.length < build.minUserSize then some ([], s)
      else
        match password with
        | none => none
        | some userPass =>
          if userPass.length > build.maxPassSize then some ([], s)
          else if atoi auth > build.viewer ∨ atoi auth < build.admin then some ([], s)
          else
            match req.connect with
            | none => none
            | some connect =>
              if StrCaseEq userName (s.userName (s.heap connect).user) then
                let idx := (s.heap connect).userIdx
                some ([], s.writeAccount idx { s.accounts idx with passwd := userPass })
              else if req.authority ≠ build.admin then
                some (ascii "You must have administrator authority!\r\n", s)
              else
                let slots := List.range build.acountNum
                let existed := ((slots.filter fun i => StrCaseEq userName (s.accounts i).name).map
                  fun _ => ascii "The specific user was existed!\r\n").flatten
                match slots.find? fun i => (s.accounts i).name = [] with
                | some k =>
                  if 0 < k then
                    let user := ⟨userName, userPass, (atoi auth).toNat⟩
                    some (existed ++ userModAnswer user, s.writeAccount k user)
                  else some (existed ++ ascii "The user list was full!\r\n", s)
                | none => some (existed ++ ascii "The user list was full!\r\n", s)

/-- The slot that `uri_user_del` finds for a name. It looks at as many slots as there are
accounts. -/
def userDelSlot (build : Build) (s : Server) (value : List UInt8) : Option Nat :=
  (List.range ((List.range build.acountNum).filter fun i => (s.accounts i).name ≠ []).length).find?
    fun i => StrCaseEq value (s.accounts i).name

/-- `uri_user_del`; the value is that of the first argument. When nothing is deleted the source
prints a buffer it has not written; that text is left out. -/
def userDel (build : Build) (rounds : Nat) (s : Server) (req : Request) (value : List UInt8) :
    Option (List UInt8 × Server) :=
  s.deleteAccount build rounds req value (s.userDelSlot build value)
    (ascii "username=" ++ value ++ ascii "\r\n") []

end Server

/-! ## What the commands write -/

variable {build : Build} {rounds : Nat} {s s' : Server} {req : Request} {out : List UInt8}

/-- The account that `add_user` accepts has an authority between the administrator's and the
viewer's. -/
theorem parseUser_authority {value : List UInt8} {user : Account}
    (parsed : Server.parseUser build value = some user) :
    build.admin ≤ user.authority ∧ user.authority ≤ build.viewer := by
  unfold Server.parseUser at parsed
  split at parsed
  · cases parsed
  split at parsed
  · cases parsed
  split at parsed
  · cases parsed
  split at parsed
  · cases parsed
  split at parsed
  · cases parsed
  split at parsed
  · cases parsed
  rename_i limits
  cases parsed
  dsimp only
  omega

/-- The slot the loop of `add_user` ends with has the name, or it is free. -/
theorem addUserLoop_found {accounts : Nat → Account} {userName : List UInt8} {k : Nat}
    {blank : Option Nat} {slots : List Nat}
    (found : Server.addUserLoop accounts userName blank slots = some k)
    (start : ∀ i, blank = some i → (accounts i).name = []) :
    StrCaseEq userName (accounts k).name ∨ (accounts k).name = [] := by
  induction slots generalizing blank with
  | nil => exact .inr (start k found)
  | cons i rest ih =>
    rw [Server.addUserLoop] at found
    split at found
    · rename_i same
      cases found
      exact .inl same
    · refine ih found fun j next => ?_
      split at next
      · rename_i free
        cases next
        exact free.2
      · exact start j next

/-- The loop of `add_user` ends with another slot only when none has the name. -/
theorem addUserLoop_absent {accounts : Nat → Account} {userName : List UInt8} {k : Nat}
    {blank : Option Nat} {slots : List Nat}
    (found : Server.addUserLoop accounts userName blank slots = some k)
    (other : ¬StrCaseEq userName (accounts k).name) :
    ∀ i ∈ slots, ¬StrCaseEq userName (accounts i).name := by
  induction slots generalizing blank with
  | nil => simp
  | cons i rest ih =>
    rw [Server.addUserLoop] at found
    split at found
    · rename_i same
      cases found
      exact absurd same other
    · rename_i differs
      intro j member
      rcases List.mem_cons.mp member with rfl | later
      · exact differs
      · exact ih found j later

/-- The slot the loop of `add_user` ends with is one of those it looks at. -/
theorem addUserLoop_mem {accounts : Nat → Account} {userName : List UInt8} {k : Nat}
    {blank : Option Nat} {slots : List Nat}
    (found : Server.addUserLoop accounts userName blank slots = some k) :
    blank = some k ∨ k ∈ slots := by
  induction slots generalizing blank with
  | nil => exact .inl found
  | cons i rest ih =>
    rw [Server.addUserLoop] at found
    split at found
    · cases found
      exact .inr List.mem_cons_self
    · rcases ih found with next | later
      · split at next
        · cases next
          exact .inr List.mem_cons_self
        · exact .inl next
      · exact .inr (List.mem_cons_of_mem i later)

/-- The loop of `add_user` ends with the first slot when that one has the name. -/
theorem addUserLoop_first {accounts : Nat → Account} {userName : List UInt8} {blank : Option Nat}
    {rest : List Nat} (same : StrCaseEq userName (accounts 0).name) :
    Server.addUserLoop accounts userName blank (0 :: rest) = some 0 := by
  rw [Server.addUserLoop]
  exact if_pos same

/-- The ways `add_user` ends: it refuses; it writes the password and the authority of the account
the request is logged in as, when that does not lower the first account or raise another one; or,
for an administrator, it writes the account with the given name, or a free slot. -/
inductive AddUserResult (build : Build) (s : Server) (req : Request) (value : List UInt8) :
    List UInt8 → Server → Prop
  | refused {out : List UInt8} (answer : out = ascii "NG adduser\n" ∨ out = ascii "UA adduser\n") :
      AddUserResult build s req value out s
  | own {user : Account} {connect : Addr} (parsed : Server.parseUser build value = some user)
      (held : req.connect = some connect)
      (same : StrCaseEq user.name (s.userName (s.heap connect).user))
      (lowered : StrCaseEq (s.accounts 0).name (s.userName (s.heap connect).user) →
        user.authority ≤ (s.accounts (s.heap connect).userIdx).authority)
      (raised : ¬StrCaseEq (s.accounts 0).name (s.userName (s.heap connect).user) →
        (s.accounts (s.heap connect).userIdx).authority ≤ user.authority) :
      AddUserResult build s req value (ascii "OK adduser\n")
        (s.writeAccount (s.heap connect).userIdx
          { s.accounts (s.heap connect).userIdx with
            passwd := user.passwd, authority := user.authority })
  | filled {user : Account} {connect : Addr} {k : Nat}
      (parsed : Server.parseUser build value = some user) (held : req.connect = some connect)
      (administrator : req.authority = build.admin) (later : 0 < k)
      (found : Server.addUserLoop s.accounts user.name none (List.range build.acountNum) = some k) :
      AddUserResult build s req value (ascii "OK adduser\n") (s.writeAccount k user)

/-- `add_user` ends in one of these ways. -/
theorem addUser_result {value : List UInt8} (handled : s.addUser build req value = some (out, s')) :
    AddUserResult build s req value out s' := by
  unfold Server.addUser at handled
  split at handled
  · cases handled
    exact .refused (.inl rfl)
  rename_i user parsed
  split at handled
  · cases handled
  rename_i connect held
  split at handled
  · rename_i own
    unfold Server.addUserOwn at handled
    dsimp only at handled
    split at handled
    · cases handled
      exact .refused (.inl rfl)
    rename_i lowered
    split at handled
    · cases handled
      exact .refused (.inr rfl)
    rename_i raised
    cases handled
    refine .own parsed held own ?_ ?_
    · intro first
      by_contra more
      exact lowered ⟨by omega, first⟩
    · intro other
      by_contra less
      exact raised ⟨by omega, other⟩
  split at handled
  · cases handled
    exact .refused (.inr rfl)
  rename_i administrator
  split at handled
  · cases handled
    exact .refused (.inl rfl)
  rename_i k found
  split at handled
  · rename_i positive
    cases handled
    exact .filled parsed held (not_not.mp administrator) positive found
  · cases handled
    exact .refused (.inl rfl)

/-- The account that the arguments of `uri_user_mod` describe, when they pass its checks. -/
def userModUser (build : Build) (args : List (List UInt8 × List UInt8)) : Option Account :=
  match Server.userModArgs args (none, none, ascii "1") with
  | (some userName, some userPass, auth) =>
    if userName.length > build.maxUserSize ∨ userName.length < build.minUserSize then none
    else if userPass.length > build.maxPassSize then none
    else if atoi auth > build.viewer ∨ atoi auth < build.admin then none
    else some ⟨userName, userPass, (atoi auth).toNat⟩
  | _ => none

/-- The reports of `uri_user_mod`, one for each slot with the given name. -/
def existedReports (build : Build) (s : Server) (userName : List UInt8) : List UInt8 :=
  (((List.range build.acountNum).filter fun i => StrCaseEq userName (s.accounts i).name).map
    fun _ => ascii "The specific user was existed!\r\n").flatten

/-- The ways `uri_user_mod` ends: it refuses; the list is full; it writes the password of the
account the request is logged in as; or, for an administrator, it writes the given account into
the first free slot, whether or not its name is already taken. -/
inductive UserModResult (build : Build) (s : Server) (req : Request)
    (args : List (List UInt8 × List UInt8)) : List UInt8 → Server → Prop
  | refused {out : List UInt8}
      (answer : out = [] ∨ out = ascii "You must have administrator authority!\r\n") :
      UserModResult build s req args out s
  | full {userName : List UInt8} : UserModResult build s req args
      (existedReports build s userName ++ ascii "The user list was full!\r\n") s
  | own {user : Account} {connect : Addr} (parsed : userModUser build args = some user)
      (held : req.connect = some connect)
      (same : StrCaseEq user.name (s.userName (s.heap connect).user)) :
      UserModResult build s req args [] (s.writeAccount (s.heap connect).userIdx
        { s.accounts (s.heap connect).userIdx with passwd := user.passwd })
  | added {user : Account} {connect : Addr} {k : Nat} (parsed : userModUser build args = some user)
      (held : req.connect = some connect)
      (other : ¬StrCaseEq user.name (s.userName (s.heap connect).user))
      (administrator : req.authority = build.admin) (later : 0 < k)
      (free : (List.range build.acountNum).find? (fun i => (s.accounts i).name = []) = some k) :
      UserModResult build s req args (existedReports build s user.name ++ Server.userModAnswer user)
        (s.writeAccount k user)

/-- `uri_user_mod` ends in one of these ways. -/
theorem userMod_result {args : List (List UInt8 × List UInt8)}
    (handled : s.userMod build req args = some (out, s')) :
    UserModResult build s req args out s' := by
  unfold Server.userMod at handled
  split at handled
  · cases handled
    exact .refused (.inl rfl)
  split at handled
  · cases handled
  rename_i userName password auth given
  split at handled
  · cases handled
    exact .refused (.inl rfl)
  rename_i size
  split at handled
  · cases handled
  rename_i userPass
  split at handled
  · cases handled
    exact .refused (.inl rfl)
  rename_i short
  split at handled
  · cases handled
    exact .refused (.inl rfl)
  rename_i limits
  have parsed : userModUser build args = some ⟨userName, userPass, (atoi auth).toNat⟩ := by
    simp only [userModUser, given, if_neg size, if_neg short, if_neg limits]
  split at handled
  · cases handled
  rename_i connect held
  split at handled
  · rename_i own
    cases handled
    exact .own parsed held own
  rename_i other
  split at handled
  · cases handled
    exact .refused (.inr rfl)
  rename_i administrator
  dsimp only at handled
  split at handled
  · rename_i k found
    split at handled
    · rename_i positive
      cases handled
      exact .added parsed held other (not_not.mp administrator) positive found
    · cases handled
      exact .full
  · cases handled
    exact .full

/-- The name that the checks of `uri_user_mod` pass is the one given. -/
theorem userModUser_name {args : List (List UInt8 × List UInt8)} {user : Account}
    (parsed : userModUser build args = some user) :
    (Server.userModArgs args (none, none, ascii "1")).1 = some user.name ∧
      (Server.userModArgs args (none, none, ascii "1")).2.1 = some user.passwd := by
  unfold userModUser at parsed
  split at parsed
  · rename_i given
    split_ifs at parsed
    cases parsed
    rw [given]
    exact ⟨rfl, rfl⟩
  · cases parsed

/-- A deletion clears a slot: an administrator asked for it by its name, and it may be deleted. -/
structure Deletes (build : Build) (rounds : Nat) (s : Server) (req : Request) (value : List UInt8)
    (k : Nat) (s' : Server) : Prop where
  /-- The request has the authority of an administrator. -/
  administrator : req.authority = build.admin
  /-- It names the account. -/
  named : StrCaseEq value (s.accounts k).name
  /-- The slot may be cleared. -/
  deletable : Server.Deletable build k
  /-- It is cleared. -/
  cleared : s.clearAccount build rounds k value = some s'

/-- A deletion refuses, or it clears the slot that was found. -/
theorem deleteAccount_result {value deleted refused : List UInt8} {found : Option Nat}
    (named : ∀ k, found = some k → StrCaseEq value (s.accounts k).name)
    (handled : s.deleteAccount build rounds req value found deleted refused = some (out, s')) :
    (out = refused ∧ s' = s) ∨
      (out = deleted ∧ ∃ k, found = some k ∧ Deletes build rounds s req value k s') := by
  unfold Server.deleteAccount at handled
  split at handled
  · rename_i administrator
    split at handled
    · cases handled
      exact .inl ⟨rfl, rfl⟩
    rename_i k
    split at handled
    · rename_i deletable
      obtain ⟨s₁, cleared, same⟩ := Option.map_eq_some_iff.mp handled
      cases same
      exact .inr ⟨rfl, k, rfl, administrator, named k rfl, deletable, cleared⟩
    · cases handled
      exact .inl ⟨rfl, rfl⟩
  · cases handled
    exact .inl ⟨rfl, rfl⟩

/-- `del_user` deletes the first account with the name. -/
theorem delUserSlot_named {value : List UInt8} {k : Nat}
    (found : s.delUserSlot build value = some k) : StrCaseEq value (s.accounts k).name := by
  simpa using List.find?_some found

/-- `uri_user_del` deletes an account with the name. -/
theorem userDelSlot_named {value : List UInt8} {k : Nat}
    (found : s.userDelSlot build value = some k) : StrCaseEq value (s.accounts k).name := by
  simpa using List.find?_some found

/-- What `del_user` writes: nothing, or it deletes the first account with the name. -/
theorem delUser_cases {value : List UInt8}
    (handled : s.delUser build rounds req value = some (out, s')) :
    s' = s ∨ ∃ k, s.delUserSlot build value = some k ∧ Deletes build rounds s req value k s' :=
  (deleteAccount_result (fun _ => delUserSlot_named) handled).imp And.right And.right

/-- What `uri_user_del` writes: nothing, or it deletes the account it finds. -/
theorem userDel_cases {value : List UInt8}
    (handled : s.userDel build rounds req value = some (out, s')) :
    s' = s ∨ ∃ k, s.userDelSlot build value = some k ∧ Deletes build rounds s req value k s' :=
  (deleteAccount_result (fun _ => userDelSlot_named) handled).imp And.right And.right

/-- The entry that `revoke_connection` finds is the only thing it changes. -/
theorem revokeConnection_cases {name : List UInt8} (revoked : s.revokeConnection rounds name = some s') :
    s' = s ∨ ∃ connect, StrCaseEq name (s.userName (s.heap connect).user) ∧
      s' = { s with heap := s.heap.modify connect fun e => { e with revoke := true } } := by
  obtain ⟨found, searched, rfl⟩ := Option.map_eq_some_iff.mp revoked
  cases found with
  | none => exact .inl rfl
  | some connect =>
    have same := (LinkedList.seek_found searched).1
    exact .inr ⟨connect, of_decide_eq_true same, rfl⟩

end BoaIpcam
