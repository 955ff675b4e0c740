import BoaIpcam.CString
import Mathlib.Logic.Function.Basic

/-!
# Accounts, connections and requests

The state that the login code of `auth.c` and the account commands share. A cached login is an
`HTTP_CONNECTION`; the entries are cells of a memory addressed by natural numbers in the order
of their `malloc`, and the lists `connect_ready` and `connect_free` are the links in these
cells. An entry does not copy the credentials: `user_name`, `passwd` and `auth` point into the
configuration, where `info_write` changes the strings in place, or into the static
`user_guest`. The three pointers are always assigned together and are one field here.

The headers that fix the size of the account table, the limits on names and passwords and the
numbers of the authorities are not part of the repository. `Build` is their content as far as
the code relies on it: a smaller number is more authority, in the order the code compares.
-/
namespace BoaIpcam

/-- The constants of the headers `userinfo.h` and `sysconf.h` and of the build: the four
authorities, the size of the account table, the limits on names and passwords, the `min_pwd_len`
of `add_user` (8 for one brand, 0 for the others) and `CONFIG_BRAND_DLINK`. -/
structure Build where
  /-- `AUTHORITY_ADMIN`. -/
  admin : Nat
  /-- `AUTHORITY_OPERATOR`. -/
  operator : Nat
  /-- `AUTHORITY_VIEWER`. -/
  viewer : Nat
  /-- `AUTHORITY_NONE`. -/
  none : Nat
  /-- An administrator has more authority than an operator. -/
  admin_lt : admin < operator
  /-- An operator has more authority than a viewer. -/
  operator_lt : operator < viewer
  /-- A viewer has more authority than a request without login. -/
  viewer_lt : viewer < none
  /-- `ACOUNT_NUM`. -/
  acountNum : Nat
  /-- The least length of a name. -/
  minUserSize : Nat
  /-- The greatest length of a name. -/
  maxUserSize : Nat
  /-- The greatest length of a password. -/
  maxPassSize : Nat
  /-- `min_pwd_len`. -/
  minPwdLen : Nat
  /-- `CONFIG_BRAND_DLINK`. -/
  brandDlink : Bool

/-- `MAX_CONNECTION`. -/
def maxConnection : Nat := 10

/-- `MAX_REQUEST`. -/
abbrev maxRequest : Nat := 32

/-- `HTTP_CONNECTION_TIMEOUT`, in seconds. -/
def httpConnectionTimeout : Nat := 5 * 60

/-- The address of an `HTTP_CONNECTION`. -/
abbrev Addr := Nat

/-- The memory block of a request; the server never has more than `MAX_REQUEST`. -/
abbrev ReqId := Fin maxRequest

/-- Where the three pointers of a connection point. -/
inductive UserRef where
  /-- The static `user_guest`. -/
  | guest
  /-- A slot of the account table in the configuration. -/
  | slot (index : Nat)
deriving DecidableEq, Repr

/-- A slot of the account table, free when the name is empty. -/
structure Account where
  /-- The name. -/
  name : List UInt8
  /-- The password. -/
  passwd : List UInt8
  /-- The authority. -/
  authority : Nat
deriving DecidableEq, Repr

/-- `HTTP_CONNECTION`; `user` stands for `user_name`, `passwd` and `auth`. -/
structure HttpConnection where
  /-- The entry before. -/
  last : Option Addr
  /-- The entry behind. -/
  next : Option Addr
  /-- Whose entry it is. -/
  user : UserRef
  /-- The number of the slot. -/
  userIdx : Nat
  /-- The address of the client. -/
  ipaddr : UInt32
  /-- When it was used last. -/
  timeLast : Int
  /-- How many requests hold it. -/
  counter : Int
  /-- Whether it is revoked. -/
  revoke : Bool
deriving DecidableEq, Repr

/-- What the login code reads and writes of a `request`. -/
structure Request where
  /-- The address of the client. -/
  remoteIp : UInt32
  /-- When it was active last. -/
  timeLast : Int
  /-- Its entry. -/
  connect : Option Addr
  /-- Its authority. -/
  authority : Nat
deriving DecidableEq, Repr

/-- The contents of the connection entries. -/
abbrev Heap := Addr → HttpConnection

/-- The global variables of the login code, the account table and the live requests. The number
of entries allocated so far, `brk`, is the address of the next one. -/
structure Server where
  /-- The entries. -/
  heap : Heap
  /-- The address of the next one. -/
  brk : Nat
  /-- `connect_guest`. -/
  connectGuest : Option Addr
  /-- `connect_ready`. -/
  connectReady : Option Addr
  /-- `connect_free`. -/
  connectFree : Option Addr
  /-- `connection_counter`. -/
  connectionCounter : Int
  /-- The account table. -/
  accounts : Nat → Account
  /-- `user_auth_mode`. -/
  userAuthMode : Nat
  /-- The live requests. -/
  requests : ReqId → Option Request

namespace Heap

/-- Write the fields of an entry. -/
def modify (heap : Heap) (a : Addr) (f : HttpConnection → HttpConnection) : Heap :=
  Function.update heap a (f (heap a))

/-- `if (p) p->next = v;` -/
def setNext (heap : Heap) (p v : Option Addr) : Heap :=
  match p with
  | none => heap
  | some a => heap.modify a fun e => { e with next := v }

/-- `if (p) p->last = v;` -/
def setLast (heap : Heap) (p v : Option Addr) : Heap :=
  match p with
  | none => heap
  | some a => heap.modify a fun e => { e with last := v }

/-- The entries after a write through `next`. -/
theorem setNext_apply (heap : Heap) (p v : Option Addr) (a : Addr) :
    heap.setNext p v a = { heap a with next := if p = some a then v else (heap a).next } := by
  cases p with
  | none => simp [setNext]
  | some b =>
    by_cases same : a = b
    · subst same; simp [setNext, modify]
    · simp [setNext, modify, same, Ne.symm same]

/-- The entries after a write through `last`. -/
theorem setLast_apply (heap : Heap) (p v : Option Addr) (a : Addr) :
    heap.setLast p v a = { heap a with last := if p = some a then v else (heap a).last } := by
  cases p with
  | none => simp [setLast]
  | some b =>
    by_cases same : a = b
    · subst same; simp [setLast, modify]
    · simp [setLast, modify, same, Ne.symm same]

/-- The entries after a write of fields. -/
theorem modify_apply (heap : Heap) (a b : Addr) (f : HttpConnection → HttpConnection) :
    heap.modify a f b = if b = a then f (heap b) else heap b := by
  by_cases same : b = a
  · subst same; simp [modify]
  · simp [modify, same]

end Heap

namespace Server

/-- The link `next` of every entry. -/
def next (s : Server) (a : Addr) : Option Addr := (s.heap a).next

/-- The link `last` of every entry. -/
def last (s : Server) (a : Addr) : Option Addr := (s.heap a).last

/-- `*user_name`. -/
def userName (s : Server) : UserRef → List UInt8
  | .guest => ascii "guest"
  | .slot index => (s.accounts index).name

/-- `*passwd`. -/
def userPasswd (s : Server) : UserRef → List UInt8
  | .guest => []
  | .slot index => (s.accounts index).passwd

/-- `*auth`. -/
def userAuth (build : Build) (s : Server) : UserRef → Nat
  | .guest => build.viewer
  | .slot index => (s.accounts index).authority

/-- The connection of a request block, none when the block is not live. -/
def connectOf (s : Server) (r : ReqId) : Option Addr := (s.requests r).bind Request.connect

/-- The server before the first request: no entries, no requests, a given configuration. -/
def boot (accounts : Nat → Account) (userAuthMode : Nat) : Server where
  heap _ := ⟨none, none, .guest, 0, 0, 0, 0, false⟩
  brk := 0
  connectGuest := none
  connectReady := none
  connectFree := none
  connectionCounter := 0
  accounts
  userAuthMode
  requests _ := none

end Server

/-- The connections of the requests after one request is written. -/
theorem connectOf_update (s : Server) (heap : Heap) (r : ReqId) (req : Option Request) :
    ({ s with heap, requests := Function.update s.requests r req } : Server).connectOf =
      Function.update s.connectOf r (req.bind Request.connect) := by
  funext x
  by_cases same : x = r
  · subst same
    simp [Server.connectOf]
  · simp [Server.connectOf, same]

end BoaIpcam
