import BoaIpcam.Session.Accounts
import BoaIpcam.Lib.Run
import Mathlib.Logic.Relation

/-!
# The server as a transition system

The loop of the server takes one action at a time: it accepts a request, runs
`process_header_end` for one, frees one, or makes the time-out sweep of `process_requests`. While
`process_header_end` runs the handlers of a request nothing else happens; `running` is that
request. Another process may change `user_auth_mode` at any time.

What the actions write is a sequence of a few `Effect`s; only `user_logout` and the sweep release
connections. An invariant of the effects is an invariant of every action that releases nothing.
-/
namespace BoaIpcam

open LinkedList

/-! ## The time-out sweep -/

/-- The sweep may free an entry: it is idle for longer than the time-out, and it is not the guest
entry unless everybody has to log in. -/
def Server.Expired (s : Server) (now : Int) (connect : Addr) : Prop :=
  (s.connectGuest ≠ some connect ∨ s.userAuthMode ≠ 0) ∧ (s.heap connect).counter = 0 ∧
    now > (s.heap connect).timeLast + httpConnectionTimeout

instance (s : Server) (now : Int) (connect : Addr) : Decidable (s.Expired now connect) :=
  inferInstanceAs (Decidable (_ ∧ _ ∧ _))

/-- The sweep between two rounds: the variable `connect`, the server, and the entries it has
visited and freed so far. -/
structure Sweep where
  /-- The variable `connect`. -/
  cursor : Option Addr
  /-- The server. -/
  server : Server
  /-- The entries it has visited. -/
  visited : List Addr
  /-- The entries it has freed. -/
  freed : List Addr

namespace Sweep

/-- The sweep before its first round. -/
def start (s : Server) : Sweep := ⟨s.connectReady, s, [], []⟩

/-- One round. It goes on at `connect->next`, which `free_connection` may have changed. -/
def advance (now : Int) (sweep : Sweep) : Sweep :=
  match sweep.cursor with
  | none => sweep
  | some connect =>
    if sweep.server.Expired now connect then
      let server := sweep.server.freeConnection connect
      ⟨server.next connect, server, sweep.visited ++ [connect], sweep.freed ++ [connect]⟩
    else
      ⟨sweep.server.next connect, sweep.server, sweep.visited ++ [connect], sweep.freed⟩

end Sweep

/-- The sweep after a number of rounds, over or not. -/
def Server.sweepAfter (rounds : Nat) (s : Server) (now : Int) : Sweep :=
  (Sweep.advance now)^[rounds] (Sweep.start s)

/-- The time-out sweep of `process_requests`, when it is over after the given number of rounds. -/
def Server.sweep (rounds : Nat) (s : Server) (now : Int) : Option Sweep :=
  if (s.sweepAfter rounds now).cursor = none then some (s.sweepAfter rounds now) else none

/-- A sweep that is over is the sweep after its rounds, and has come to the end of its list. -/
theorem Server.sweep_over {s : Server} {rounds : Nat} {now : Int} {sweep : Sweep}
    (swept : s.sweep rounds now = some sweep) :
    (s.sweepAfter rounds now).cursor = none ∧ sweep = s.sweepAfter rounds now := by
  unfold Server.sweep at swept
  split at swept
  · rename_i finished
    exact ⟨finished, (Option.some.inj swept).symm⟩
  · cases swept

/-! ## Actions -/

/-- `free_request`, as far as the connections are concerned. -/
def Server.freeRequest (s : Server) (r : ReqId) (req : Request) (now : Int) : Server :=
  let s := { s with requests := Function.update s.requests r none }
  match req.connect with
  | none => s
  | some connect => { s with heap := s.heap.modify connect fun e =>
      { e with counter := e.counter - 1, timeLast := now } }

/-- The handlers a request can ask for. -/
inductive Command where
  | login (value : List UInt8) (mallocs : Mallocs)
  | logout
  | addUser (value : List UInt8)
  | delUser (value : List UInt8)
  | userMod (args : List (List UInt8 × List UInt8))
  | userDel (value : List UInt8)

/-- The authority that `HttpOptionTable` and `HttpUri` ask for. -/
def Command.authority (build : Build) : Command → Nat
  | .login _ _ => build.none
  | .logout => build.none
  | .addUser _ => build.operator
  | .delUser _ => build.admin
  | .userMod _ => build.admin
  | .userDel _ => build.admin

/-- A handler. `user_logout` leaves `req->connect` as it is, and reads through it when it is
null. -/
def Server.handle (build : Build) (rounds : Nat) (s : Server) (r : ReqId) (req : Request) :
    Command → Option (List UInt8 × Server)
  | .login value mallocs => s.userLogin build rounds r req value mallocs
  | .logout => req.connect.map fun connect => (ascii "OK logout\n", s.freeConnection connect)
  | .addUser value => s.addUser build req value
  | .delUser value => s.delUser build rounds req value
  | .userMod args => s.userMod build req args
  | .userDel value => s.userDel build rounds req value

/-- What the server does next. -/
inductive Act where
  /-- `get_sock_request` or the next request of a connection kept alive. -/
  | accept (r : ReqId) (remoteIp : UInt32) (timeLast : Int)
  /-- `process_header_end` up to the handler. -/
  | authorize (r : ReqId) (login : Option (List UInt8)) (mallocs : Mallocs)
  /-- A handler of the URI, or a command of the list in the query. -/
  | command (r : ReqId) (command : Command)
  /-- `process_header_end` returns. -/
  | finish
  | complete (r : ReqId) (now : Int)
  | sweep (now : Int)
  | setMode (userAuthMode : Nat)

/-- The server and the request whose handlers run. -/
structure System where
  /-- The server. -/
  server : Server
  /-- The request whose handlers run. -/
  running : Option ReqId

/-- The system before the first request. -/
def System.boot (accounts : Nat → Account) (userAuthMode : Nat) : System :=
  ⟨Server.boot accounts userAuthMode, none⟩

/-- One action, if it is possible and all its loops are over after the given number of rounds. A
request without the authority of a command is refused. -/
def System.exec (build : Build) (rounds : Nat) (sys : System) : Act → Option System
  | .accept r remoteIp timeLast =>
    if sys.running = none ∧ sys.server.requests r = none then
      some { sys with server := sys.server.setRequest r ⟨remoteIp, timeLast, none, 0⟩ }
    else none
  | .authorize r login mallocs =>
    match sys.server.requests r with
    | none => none
    | some req =>
      if sys.running = none ∧ req.connect = none then
        (sys.server.authorize build rounds r req login mallocs).map fun (code, server) =>
          ⟨server, if code = .serviceUnavailable then none else some r⟩
      else none
  | .command r command =>
    match sys.server.requests r with
    | none => none
    | some req =>
      if sys.running = some r then
        if req.authority ≤ command.authority build then
          (sys.server.handle build rounds r req command).map fun (_, server) =>
            { sys with server }
        else some sys
      else none
  | .finish => some { sys with running := none }
  | .complete r now =>
    match sys.server.requests r with
    | none => none
    | some req =>
      if sys.running = none then some { sys with server := sys.server.freeRequest r req now }
      else none
  | .sweep now =>
    if sys.running = none then
      (sys.server.sweep rounds now).map fun sweep => { sys with server := sweep.server }
    else none
  | .setMode userAuthMode => some { sys with server := { sys.server with userAuthMode } }

/-- The call of `check_user` an action makes: the request, the name and the password. -/
def System.checks (build : Build) (sys : System) : Act → Option (Request × List UInt8 × List UInt8)
  | .authorize r login _ =>
    (sys.server.requests r).bind fun req =>
      match login with
      | none => some (req, ascii "guest", [])
      | some text => (Server.credentials build text).map fun pair => (req, pair)
  | .command r (.login value _) =>
    (sys.server.requests r).bind fun req =>
      if req.connect.isSome then none
      else (Server.credentials build value).map fun pair => (req, pair)
  | _ => none

/-- The action logs in, and the login needs an entry. -/
def System.NeedsEntry (build : Build) (sys : System) (act : Act) : Prop :=
  ∃ req name passwd, sys.checks build act = some (req, name, passwd) ∧
    sys.server.NeedsEntry build req.remoteIp name passwd

/-- One action that returns. -/
def Step (build : Build) (sys : System) (act : Act) (sys' : System) : Prop :=
  ∃ rounds, sys.exec build rounds act = some sys'

/-- The actions of a list, each within the given number of rounds and after a check. -/
def System.execAll (build : Build) (rounds : Nat) (check : System → Act → Bool) (sys : System)
    (acts : List Act) : Option System :=
  TransitionSystem.execAll
    (fun sys act => if check sys act then sys.exec build rounds act else none) sys acts

/-- What `execAll` computes is reached by a run, whose guard is what the check ensures. -/
theorem System.execAll_run (build : Build) (rounds : Nat) (check : System → Act → Bool)
    (sys : System) (acts : List Act) (guard : System → Act → Prop) (p : System → Bool)
    (met : ∀ act ∈ acts, ∀ sys, check sys act = true → guard sys act)
    (done : (sys.execAll build rounds check acts).any p = true) :
    ∃ sys', TransitionSystem.Run (Step build) guard sys acts sys' ∧ p sys' = true := by
  obtain ⟨sys', computed, holds⟩ := (Option.any_eq_true _ _).mp done
  refine ⟨sys', .of_execAll (fun sys act next member moved => ?_) computed, holds⟩
  split at moved
  · rename_i checked
    exact ⟨met act member sys checked, rounds, moved⟩
  · cases moved

/-! ## Effects -/

/-- The writes the actions are made of, except `free_connection`. Entries are opened only where
that is allowed. -/
inductive Effect (build : Build) (opens : Prop) : Server → Server → Prop
  /-- A request is accepted, or its authority is written. -/
  | request {s : Server} {r : ReqId} {req : Request} (kept : req.connect = s.connectOf r) :
      Effect build opens s (s.setRequest r req)
  | attach {s : Server} {r : ReqId} {req : Request} {connect : Addr}
      (live : s.requests r = some req) (alone : req.connect = none)
      (ready : Reaches s.next s.connectReady connect) :
      Effect build opens s (s.attach build r req connect)
  | freeRequest {s : Server} {r : ReqId} {req : Request} {now : Int}
      (live : s.requests r = some req) : Effect build opens s (s.freeRequest r req now)
  | openGuest {s s₁ : Server} {malloc : Option HttpConnection} {connect : Addr} (allowed : opens)
      (missing : s.connectGuest = none)
      (allocated : s.allocConnection malloc = some (connect, s₁)) :
      Effect build opens s { s₁ with
        connectGuest := some connect
        heap := s₁.heap.modify connect fun e => { e with user := .guest } }
  | openSlot {s s₁ : Server} {malloc : Option HttpConnection} {connect : Addr} {i : Nat}
      {remoteIp : UInt32} (allowed : opens) (inside : i < build.acountNum)
      (allocated : s.allocConnection malloc = some (connect, s₁)) :
      Effect build opens s (s₁.openSlot connect i remoteIp)
  | revoke {s : Server} {connect : Addr} :
      Effect build opens s { s with heap := s.heap.modify connect fun e => { e with revoke := true } }
  | configure {s : Server} {accounts : Nat → Account} {userAuthMode : Nat} :
      Effect build opens s { s with accounts, userAuthMode }

/-- Allowing more does not take an effect away. -/
theorem Effect.mono {build : Build} {opens opens' : Prop} (more : opens → opens') {s s' : Server}
    (effect : Effect build opens s s') : Effect build opens' s s' := by
  cases effect with
  | request kept => exact .request kept
  | attach live alone ready => exact .attach live alone ready
  | freeRequest live => exact .freeRequest live
  | openGuest allowed missing allocated => exact .openGuest (more allowed) missing allocated
  | openSlot allowed inside allocated => exact .openSlot (more allowed) inside allocated
  | revoke => exact .revoke
  | configure => exact .configure

/-- A sequence of effects. -/
abbrev Effects (build : Build) (opens : Prop) : Server → Server → Prop :=
  Relation.ReflTransGen (Effect build opens)

/-- Allowing more does not take a sequence of effects away. -/
theorem Effects.mono {build : Build} {opens opens' : Prop} (more : opens → opens') {s s' : Server}
    (effects : Effects build opens s s') : Effects build opens' s s' := by
  induction effects with
  | refl => exact .refl
  | tail _ effect ih => exact ih.tail (effect.mono more)

/-- What every effect preserves is preserved by a sequence of them. -/
theorem Effects.invariant {build : Build} {opens : Prop} {inv : Server → Prop}
    (preserved : ∀ s s', inv s → Effect build opens s s' → inv s') {s s' : Server}
    (effects : Effects build opens s s') (start : inv s) : inv s' := by
  induction effects with
  | refl => exact start
  | tail _ effect ih => exact preserved _ _ ih effect

section
variable {build : Build} {opens : Prop} {rounds : Nat} {s s' : Server} {r : ReqId} {req : Request}
  {name passwd : List UInt8} {mallocs : Mallocs} {code : LoginCode}

/-- `alloc_connection` changes neither the requests nor the account table, and puts the entry in
front of `connect_ready`. -/
theorem allocConnection_frame {malloc : Option HttpConnection} {connect : Addr}
    (allocated : s.allocConnection malloc = some (connect, s')) :
    s'.requests = s.requests ∧ s'.accounts = s.accounts ∧ s'.userAuthMode = s.userAuthMode ∧
      s'.connectGuest = s.connectGuest ∧ s'.connectReady = some connect := by
  rcases allocConnection_cases allocated with ⟨-, rfl⟩ | ⟨-, rfl, -, junk, -, rfl⟩
  · exact ⟨rfl, rfl, rfl, rfl, rfl⟩
  · exact ⟨rfl, rfl, rfl, rfl, rfl⟩

/-- A login opens an entry only when it needs one. -/
theorem checkUser_effects
    (returned : s.checkUser build rounds r req name passwd mallocs = some (code, s'))
    (live : s.requests r = some req) (alone : req.connect = none) :
    Effects build (s.NeedsEntry build req.remoteIp name passwd) s s' := by
  rcases checkUser_cases returned with ⟨-, -, rfl⟩ | ⟨s₁, ensured, answer⟩
  · exact .refl
  · have guest : Effects build (s.NeedsEntry build req.remoteIp name passwd) s s₁ ∧
        s₁.requests = s.requests ∧
        (s₁.NeedsEntry build req.remoteIp name passwd →
          s.NeedsEntry build req.remoteIp name passwd) := by
      rcases ensureGuest_cases ensured with rfl | ⟨missing, mode, connect, s₂, allocated, rfl⟩
      · exact ⟨.refl, rfl, id⟩
      · have needed : s.NeedsEntry build req.remoteIp name passwd := .inl ⟨missing, mode⟩
        exact ⟨.single (.openGuest needed missing allocated), (allocConnection_frame allocated).1,
          fun _ => needed⟩
    obtain ⟨guest, requests, needs⟩ := guest
    cases answer with
    | served found =>
      exact guest.tail (.attach (requests ▸ live) alone (seek_found found).2)
    | @opened connect i s₂ missing matching allocated =>
      obtain ⟨inside, matches_⟩ := matchingSlot_found matching
      obtain ⟨requests', -, -, -, ready⟩ := allocConnection_frame allocated
      have needed : s₁.NeedsEntry build req.remoteIp name passwd :=
        .inr ⟨fun _ reached => of_decide_eq_false (seek_missing missing reached), i, inside, matches_⟩
      refine (guest.tail (.openSlot (needs needed) inside allocated)).tail (.attach ?_ alone ?_)
      · exact (congrFun (requests'.trans requests) r).trans live
      · rw [show (s₂.openSlot connect i req.remoteIp).connectReady = some connect from ready]
        exact .here connect
    | failed _ => exact guest

/-- The effects of a deletion: the slot is cleared, then at most one entry is revoked. -/
theorem Deletes.effects {value : List UInt8} {k : Nat}
    (deletes : Deletes build rounds s req value k s') : Effects build opens s s' := by
  have cleared : Effect build opens s (s.writeAccount k ⟨[], [], build.none⟩) := .configure
  rcases revokeConnection_cases deletes.cleared with same | ⟨connect, -, same⟩
  · rw [same]
    exact .single cleared
  · rw [same]
    exact .tail (.single cleared) .revoke

/-- The effects of the account commands. -/
theorem handle_effects {command : Command} {out : List UInt8}
    (handled : s.handle build rounds r req command = some (out, s'))
    (other : command ≠ .logout) (quiet : ∀ value mallocs, command ≠ .login value mallocs) :
    Effects build opens s s' := by
  cases command with
  | login value mallocs => exact absurd rfl (quiet value mallocs)
  | logout => exact absurd rfl other
  | addUser value =>
    cases addUser_result handled with
    | refused _ => exact .refl
    | own => exact .single .configure
    | filled => exact .single .configure
  | delUser value =>
    rcases delUser_cases handled with rfl | ⟨k, -, deletes⟩
    · exact .refl
    · exact deletes.effects
  | userMod args =>
    cases userMod_result handled with
    | refused _ => exact .refl
    | full => exact .refl
    | own => exact .single .configure
    | added => exact .single .configure
  | userDel value =>
    rcases userDel_cases handled with rfl | ⟨k, -, deletes⟩
    · exact .refl
    · exact deletes.effects

end

/-- The four kinds of actions. A login first writes the request, without changing its connection;
a logout releases the connection of its request; the sweep releases what it finds. -/
inductive Kind (build : Build) (sys : System) (act : Act) (s' : Server) : Prop
  | quiet (effects : Effects build False sys.server s')
  | login {r : ReqId} {req asked : Request} {name passwd : List UInt8} {mallocs : Mallocs}
      {rounds : Nat} {code : LoginCode}
      (returned : (sys.server.setRequest r req).checkUser build rounds r req name passwd mallocs =
        some (code, s'))
      (checks : sys.checks build act = some (asked, name, passwd))
      (sameIp : req.remoteIp = asked.remoteIp) (alone : req.connect = none)
      (kept : sys.server.connectOf r = none)
  | logout {r : ReqId} {req : Request} {connect : Addr} (asked : act = .command r .logout)
      (live : sys.server.requests r = some req) (held : req.connect = some connect)
      (freed : s' = sys.server.freeConnection connect)
  | sweep {now : Int} {rounds : Nat} {sweep : Sweep} (asked : act = .sweep now)
      (swept : sys.server.sweep rounds now = some sweep) (freed : s' = sweep.server)

section
variable {build : Build} {rounds : Nat} {sys : System} {r : ReqId} {req : Request}

/-- `process_header_end` before the handler is a login, unless the credentials are malformed. -/
theorem authorize_kind {login : Option (List UInt8)} {mallocs : Mallocs} {code : LoginCode}
    {s' : Server}
    (returned : sys.server.authorize build rounds r req login mallocs = some (code, s'))
    (live : sys.server.requests r = some req) (alone : req.connect = none) :
    Kind build sys (.authorize r login mallocs) s' := by
  have kept : sys.server.connectOf r = req.connect := by rw [Server.connectOf, live]; rfl
  unfold Server.authorize at returned
  dsimp only at returned
  split at returned
  · have checks : sys.checks build (.authorize r none mallocs) = some (req, ascii "guest", []) := by
      simp [System.checks, live]
    exact .login returned checks rfl alone (kept.trans alone)
  · rename_i text
    split at returned
    · cases returned
      exact .quiet (.single (.request kept.symm))
    · rename_i name passwd given
      have checks : sys.checks build (.authorize r (some text) mallocs) = some (req, name, passwd) := by
        simp [System.checks, live, given]
      exact .login returned checks rfl alone (kept.trans alone)

/-- `user_login` is a login, unless the request has a connection or the credentials are
malformed. -/
theorem userLogin_kind {value out : List UInt8} {mallocs : Mallocs} {s' : Server}
    (handled : sys.server.userLogin build rounds r req value mallocs = some (out, s'))
    (live : sys.server.requests r = some req) :
    Kind build sys (.command r (.login value mallocs)) s' := by
  unfold Server.userLogin at handled
  split at handled
  · cases handled
    exact .quiet .refl
  rename_i connected
  split at handled
  · cases handled
    exact .quiet .refl
  rename_i name passwd given
  obtain ⟨⟨code, s₁⟩, returned, same⟩ := Option.map_eq_some_iff.mp handled
  cases same
  have alone : req.connect = none := by simpa using connected
  have kept : sys.server.connectOf r = none := by rw [Server.connectOf, live]; exact alone
  have checks : sys.checks build (.command r (.login value mallocs)) = some (req, name, passwd) := by
    simp [System.checks, live, given, alone]
  have again : sys.server.setRequest r req = sys.server := by
    rw [Server.setRequest, ← live, Function.update_eq_self]
  rw [← again] at returned
  exact .login returned checks rfl alone kept

end

/-- A command is run for the request whose handlers run, and refused without the authority for
it. -/
theorem Step.command_cases {build : Build} {sys sys' : System} {r : ReqId} {command : Command}
    (step : Step build sys (.command r command) sys') :
    ∃ req, sys.server.requests r = some req ∧ sys.running = some r ∧
      (sys' = sys ∨ (req.authority ≤ command.authority build ∧ ∃ rounds out server,
        sys.server.handle build rounds r req command = some (out, server) ∧
        sys' = { sys with server })) := by
  obtain ⟨rounds, done⟩ := step
  simp only [System.exec] at done
  split at done
  · cases done
  rename_i req live
  split at done
  case isFalse => cases done
  rename_i running
  refine ⟨req, live, running, ?_⟩
  split at done
  · rename_i gate
    obtain ⟨⟨out, server⟩, handled, rfl⟩ := Option.map_eq_some_iff.mp done
    exact .inr ⟨gate, rounds, out, server, handled, rfl⟩
  · cases done
    exact .inl rfl

/-- Every action is of one of the four kinds. -/
theorem Step.kind {build : Build} {sys sys' : System} {act : Act} (step : Step build sys act sys') :
    Kind build sys act sys'.server := by
  have again := step
  obtain ⟨rounds, done⟩ := step
  cases act with
  | accept r remoteIp timeLast =>
    simp only [System.exec] at done
    split at done
    · rename_i fresh
      cases done
      refine .quiet (.single (.request ?_))
      simp [Server.connectOf, fresh.2]
    · cases done
  | authorize r login mallocs =>
    simp only [System.exec] at done
    split at done
    · cases done
    rename_i req live
    split at done
    · rename_i alone
      obtain ⟨⟨code, server⟩, returned, rfl⟩ := Option.map_eq_some_iff.mp done
      exact authorize_kind returned live alone.2
    · cases done
  | command r command =>
    obtain ⟨req, live, -, rfl | ⟨-, rounds, out, server, handled, rfl⟩⟩ := again.command_cases
    · exact .quiet .refl
    cases command with
    | login value mallocs => exact userLogin_kind handled live
    | logout =>
      obtain ⟨connect, held, same⟩ := Option.map_eq_some_iff.mp handled
      cases same
      exact .logout rfl live held rfl
    | addUser value => exact .quiet (handle_effects handled (by simp) (by simp))
    | delUser value => exact .quiet (handle_effects handled (by simp) (by simp))
    | userMod args => exact .quiet (handle_effects handled (by simp) (by simp))
    | userDel value => exact .quiet (handle_effects handled (by simp) (by simp))
  | finish =>
    cases done
    exact .quiet .refl
  | complete r now =>
    simp only [System.exec] at done
    split at done
    · cases done
    rename_i req live
    split at done
    · cases done
      exact .quiet (.single (.freeRequest live))
    · cases done
  | sweep now =>
    simp only [System.exec] at done
    split at done
    · obtain ⟨sweep, swept, rfl⟩ := Option.map_eq_some_iff.mp done
      exact .sweep rfl swept rfl
    · cases done
  | setMode userAuthMode =>
    cases done
    exact .quiet (.single .configure)

/-- The actions that are neither a logout nor a sweep are sequences of effects, which open entries
only where a login needs one. -/
theorem Step.cases {build : Build} {sys sys' : System} {act : Act} (step : Step build sys act sys') :
    Effects build (sys.NeedsEntry build act) sys.server sys'.server ∨
      (∃ r req connect, act = .command r .logout ∧ sys.server.requests r = some req ∧
        req.connect = some connect ∧ sys'.server = sys.server.freeConnection connect) ∨
      ∃ now rounds sweep, act = .sweep now ∧ sys.server.sweep rounds now = some sweep ∧
        sys'.server = sweep.server := by
  cases step.kind with
  | quiet effects => exact .inl (effects.mono False.elim)
  | @login r req asked name passwd mallocs rounds code returned checks sameIp alone kept =>
    have written : Effect build (sys.NeedsEntry build act) sys.server (sys.server.setRequest r req) :=
      .request (alone.trans kept.symm)
    have updated : Function.update sys.server.requests r (some req) r = some req :=
      Function.update_self ..
    refine .inl (.head written (Effects.mono ?_ (checkUser_effects returned updated alone)))
    intro needed
    rw [sameIp] at needed
    exact ⟨asked, name, passwd, checks, needed⟩
  | logout asked live held freed => exact .inr (.inl ⟨_, _, _, asked, live, held, freed⟩)
  | sweep asked swept freed => exact .inr (.inr ⟨_, _, _, asked, swept, freed⟩)

/-! ## A small configuration -/

/-- The constants of a build with four slots, for the runs on concrete inputs. -/
def Build.small : Build where
  admin := 0
  operator := 1
  viewer := 2
  none := 3
  admin_lt := Nat.zero_lt_one
  operator_lt := Nat.one_lt_two
  viewer_lt := Nat.lt_succ_self 2
  acountNum := 4
  minUserSize := 1
  maxUserSize := 8
  maxPassSize := 8
  minPwdLen := 0
  brandDlink := false

/-- An account table that holds an administrator and an operator. -/
def smallAccounts : Nat → Account
  | 0 => ⟨ascii "admin", ascii "a", 0⟩
  | 1 => ⟨ascii "bob", ascii "b", 1⟩
  | _ => ⟨[], [], 3⟩

/-- A `malloc` that finds memory. -/
def plenty : Mallocs := ⟨some ⟨none, none, .guest, 0, 0, 0, 0, false⟩,
  some ⟨none, none, .guest, 0, 0, 0, 0, false⟩⟩

/-- A request that logs in and is done at time zero. -/
def visit (r : ReqId) (remoteIp : UInt32) (login : String) : List Act :=
  [.accept r remoteIp 0, .authorize r (some (ascii login)) plenty, .finish, .complete r 0]

end BoaIpcam
