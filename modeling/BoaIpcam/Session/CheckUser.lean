import BoaIpcam.Session.Connection

/-!
# Logging in

`check_user` of `auth.c` and the two callers that split the credentials, `auth_authorize` and
`user_login`. A login is answered from the cached connections of `connect_ready` when one of
them serves it, and from a scan of the account table otherwise.

Every loop over the lists takes the number of rounds it may make; none means that these were
not enough. A walk that meets a cycle is none for every number of rounds.
-/
namespace BoaIpcam

open LinkedList

/-- The results of `check_user`: zero, `ERROR_UNAUTHORIZED` and `ERROR_SERVICE_UNAVAILABLE`. -/
inductive LoginCode where
  | ok
  | unauthorized
  | serviceUnavailable
deriving DecidableEq, Repr

/-- What `malloc` returns to the two calls of `alloc_connection` a login can make. -/
structure Mallocs where
  /-- For the guest. -/
  guest : Option HttpConnection
  /-- For an account. -/
  account : Option HttpConnection

namespace Server

/-- A cached connection serves a login: it is not revoked, it is the guest entry or comes from
the address of the request, and its live name and password are those given. -/
def Serves (s : Server) (remoteIp : UInt32) (name passwd : List UInt8) (connect : Addr) : Prop :=
  (s.heap connect).revoke = false ∧
    (s.connectGuest = some connect ∨ (s.heap connect).ipaddr = remoteIp) ∧
    StrCaseEq name (s.userName (s.heap connect).user) ∧
    passwd = s.userPasswd (s.heap connect).user

instance (s : Server) (remoteIp : UInt32) (name passwd : List UInt8) (connect : Addr) :
    Decidable (s.Serves remoteIp name passwd connect) :=
  inferInstanceAs (Decidable (_ ∧ _ ∧ _ ∧ _))

/-- The name and the password are those of a slot of the account table. -/
def MatchesSlot (s : Server) (name passwd : List UInt8) (i : Nat) : Prop :=
  StrCaseEq name (s.accounts i).name ∧ passwd = (s.accounts i).passwd

instance (s : Server) (name passwd : List UInt8) (i : Nat) :
    Decidable (s.MatchesSlot name passwd i) :=
  inferInstanceAs (Decidable (_ ∧ _))

/-- The start of `check_user`: while nobody has to log in there is an entry for the guest. Its
`user_idx` and `ipaddr` are not written. None when there is no entry to have. -/
def ensureGuest (s : Server) (malloc : Option HttpConnection) : Option Server :=
  if s.connectGuest = none ∧ s.userAuthMode = 0 then
    (s.allocConnection malloc).map fun (connect, s) => { s with
      connectGuest := some connect
      heap := s.heap.modify connect fun e => { e with user := .guest } }
  else some s

/-- A fresh entry becomes the connection of a slot. -/
def openSlot (s : Server) (connect : Addr) (i : Nat) (remoteIp : UInt32) : Server :=
  { s with heap := s.heap.modify connect fun e =>
    { e with user := .slot i, userIdx := i, ipaddr := remoteIp } }

/-- Write the fields of a live request. -/
def setRequest (s : Server) (r : ReqId) (req : Request) : Server :=
  { s with requests := Function.update s.requests r (some req) }

/-- The request takes a connection and the authority that goes with it. -/
def attach (build : Build) (s : Server) (r : ReqId) (req : Request) (connect : Addr) : Server :=
  { s with
    heap := s.heap.modify connect fun e =>
      { e with counter := e.counter + 1, timeLast := req.timeLast }
    requests := Function.update s.requests r (some { req with
      connect := some connect
      authority := s.userAuth build (s.heap connect).user }) }

/-- The first loop of `check_user`. -/
def cached (rounds : Nat) (s : Server) (remoteIp : UInt32) (name passwd : List UInt8) :
    Option (Option Addr) :=
  seek s.next (fun connect => s.Serves remoteIp name passwd connect) rounds s.connectReady

/-- The second loop of `check_user`, over all slots, those without a user included. -/
def matchingSlot (build : Build) (s : Server) (name passwd : List UInt8) : Option Nat :=
  (List.range build.acountNum).find? fun i => s.MatchesSlot name passwd i

/-- `check_user`. -/
def checkUser (build : Build) (rounds : Nat) (s : Server) (r : ReqId) (req : Request)
    (name passwd : List UInt8) (mallocs : Mallocs) : Option (LoginCode × Server) :=
  match s.ensureGuest mallocs.guest with
  | none => some (.serviceUnavailable, s)
  | some s =>
    match s.cached rounds req.remoteIp name passwd with
    | none => none
    | some (some connect) => some (.ok, s.attach build r req connect)
    | some none =>
      match s.matchingSlot build name passwd with
      | none => some (.unauthorized, s)
      | some i =>
        match s.allocConnection mallocs.account with
        | none => some (.serviceUnavailable, s)
        | some (connect, s) =>
          some (.ok, (s.openSlot connect i req.remoteIp).attach build r req connect)

/-- A login needs an entry: that of the guest is missing, or no cached connection serves the login
and a slot matches. -/
def NeedsEntry (build : Build) (s : Server) (remoteIp : UInt32) (name passwd : List UInt8) : Prop :=
  (s.connectGuest = none ∧ s.userAuthMode = 0) ∨
    (∀ connect, Reaches s.next s.connectReady connect → ¬s.Serves remoteIp name passwd connect) ∧
      ∃ i < build.acountNum, s.MatchesSlot name passwd i

/-- The name and the password around the first colon, none when there is no colon or one of them
is too long. -/
def credentials (build : Build) (text : List UInt8) : Option (List UInt8 × List UInt8) :=
  match splitAtByte 58 text with
  | none => none
  | some (name, passwd) =>
    if name.length > build.maxUserSize ∨ passwd.length > build.maxPassSize then none
    else some (name, passwd)

/-- What `process_header_end` does before the handler of the URI runs. The text is the value of
a `login` argument or the decoded `Authorization` header; without either the guest logs in. -/
def authorize (build : Build) (rounds : Nat) (s : Server) (r : ReqId) (req : Request)
    (login : Option (List UInt8)) (mallocs : Mallocs) : Option (LoginCode × Server) :=
  let req := { req with authority := build.none }
  let s := s.setRequest r req
  match login with
  | none => s.checkUser build rounds r req (ascii "guest") [] mallocs
  | some text =>
    match credentials build text with
    | none => some (.unauthorized, s)
    | some (name, passwd) => s.checkUser build rounds r req name passwd mallocs

/-- `user_login`. A request that has a connection keeps it. -/
def userLogin (build : Build) (rounds : Nat) (s : Server) (r : ReqId) (req : Request)
    (value : List UInt8) (mallocs : Mallocs) : Option (List UInt8 × Server) :=
  if req.connect.isSome then some (ascii "OK login\n", s)
  else
    match credentials build value with
    | none => some (ascii "NG login\n", s)
    | some (name, passwd) =>
      (s.checkUser build rounds r req name passwd mallocs).map fun (code, s) =>
        (if code = .ok then ascii "OK login\n" else ascii "NG login\n", s)

end Server

variable {build : Build} {rounds : Nat} {s s' : Server} {r : ReqId} {req : Request}
  {name passwd : List UInt8} {mallocs : Mallocs} {code : LoginCode}

/-- The guest entry is allocated when there is none and nobody has to log in; otherwise nothing
happens. -/
theorem ensureGuest_cases {malloc : Option HttpConnection} (ensured : s.ensureGuest malloc = some s') :
    s' = s ∨ s.connectGuest = none ∧ s.userAuthMode = 0 ∧
      ∃ connect s₁, s.allocConnection malloc = some (connect, s₁) ∧ s' = { s₁ with
        connectGuest := some connect
        heap := s₁.heap.modify connect fun e => { e with user := .guest } } := by
  unfold Server.ensureGuest at ensured
  split at ensured
  · rename_i needed
    obtain ⟨⟨connect, s₁⟩, allocated, rfl⟩ := Option.map_eq_some_iff.mp ensured
    exact .inr ⟨needed.1, needed.2, connect, s₁, allocated, rfl⟩
  · cases ensured
    exact .inl rfl

/-- What a login does once the guest entry is settled: it takes the first cached connection that
serves it, it opens one for the first slot that matches, or it fails and changes nothing. -/
inductive Answer (build : Build) (rounds : Nat) (s : Server) (r : ReqId) (req : Request)
    (name passwd : List UInt8) (malloc : Option HttpConnection) : LoginCode → Server → Prop
  | served {connect : Addr}
      (found : s.cached rounds req.remoteIp name passwd = some (some connect)) :
      Answer build rounds s r req name passwd malloc .ok (s.attach build r req connect)
  | opened {connect : Addr} {i : Nat} {s₁ : Server}
      (missing : s.cached rounds req.remoteIp name passwd = some none)
      (matching : s.matchingSlot build name passwd = some i)
      (allocated : s.allocConnection malloc = some (connect, s₁)) :
      Answer build rounds s r req name passwd malloc .ok
        ((s₁.openSlot connect i req.remoteIp).attach build r req connect)
  | failed {code : LoginCode} (refused : code ≠ .ok) :
      Answer build rounds s r req name passwd malloc code s

/-- Every return of `check_user`. -/
theorem checkUser_cases
    (returned : s.checkUser build rounds r req name passwd mallocs = some (code, s')) :
    (code = .serviceUnavailable ∧ s.ensureGuest mallocs.guest = none ∧ s' = s) ∨
      ∃ s₁, s.ensureGuest mallocs.guest = some s₁ ∧
        Answer build rounds s₁ r req name passwd mallocs.account code s' := by
  unfold Server.checkUser at returned
  split at returned
  · rename_i missing
    cases returned
    exact .inl ⟨rfl, missing, rfl⟩
  · rename_i s₁ ensured
    refine .inr ⟨s₁, ensured, ?_⟩
    split at returned
    · cases returned
    · rename_i connect found
      cases returned
      exact .served found
    · rename_i missing
      split at returned
      · cases returned
        exact .failed (by decide)
      · rename_i i matching
        split at returned
        · cases returned
          exact .failed (by decide)
        · rename_i connect s₂ allocated
          cases returned
          exact .opened missing matching allocated

/-- The slot the scan finds is one of the table and matches. -/
theorem matchingSlot_found {i : Nat} (found : s.matchingSlot build name passwd = some i) :
    i < build.acountNum ∧ s.MatchesSlot name passwd i := by
  constructor
  · exact List.mem_range.mp (List.mem_of_find?_eq_some found)
  · simpa using List.find?_some found

end BoaIpcam
