import BoaIpcam.Session.Sweep

/-!
# The number of connections

`connection_counter` is meant to be the number of entries on `connect_ready`, and thereby to keep
that number below `MAX_CONNECTION`. `free_connection` counts every entry it releases, but
`alloc_connection` counts only the entries it gets from `malloc`, not those it takes back from
`connect_free`. So the counter is right as long as no released entry is used again.
-/
namespace BoaIpcam

open LinkedList TransitionSystem

/-- The counter is the number of entries on `connect_ready`, and there are not too many. -/
def Counted (s : Server) : Prop :=
  ∃ ready free, Lists s ready free ∧ s.connectionCounter = ready.length ∧
    ready.length ≤ maxConnection

/-- The counter stays right in an action: a login that needs an entry finds `connect_free` empty,
a sweep does not find expired entries on both lists, and a logout releases an entry of
`connect_ready`. -/
structure Counts (build : Build) (sys : System) (act : Act) : Prop where
  /-- A login finds `connect_free` empty. -/
  login : sys.NeedsEntry build act → sys.server.connectFree = none
  /-- An expired entry is on one list. -/
  sweep : ∀ now a f, act = .sweep now → Reaches sys.server.next sys.server.connectReady a →
    sys.server.Expired now a → Reaches sys.server.next sys.server.connectFree f →
    ¬sys.server.Expired now f
  /-- A logout releases an entry of `connect_ready`. -/
  logout : LogsOutReady sys act

section
variable {build : Build} {s s' : Server}

/-- Where no entry is opened the counter stays right. -/
theorem Counted.quiet (counted : Counted s) (effects : Effects build False s s') : Counted s' := by
  refine effects.invariant ?_ counted
  rintro t t' ⟨ready, free, lists, counter, few⟩ effect
  obtain ⟨ready', free', lists', moved⟩ := lists.effect effect
  generalize after : t'.connectionCounter = counter' at moved
  cases moved with
  | stay => exact ⟨ready, free, lists', after.trans counter, few⟩
  | reuse allowed => exact allowed.elim
  | fresh allowed => exact allowed.elim

/-- With nothing on `connect_free` every entry is fresh, and counted. -/
theorem Counted.fresh {opens : Prop} (counted : Counted s) (empty : s.connectFree = none)
    (effects : Effects build opens s s') : Counted s' := by
  obtain ⟨ready, free, lists, counter, few⟩ := counted
  have noneFree : free = [] := by
    have start := lists.freeChain.head_eq
    rw [empty] at start
    exact List.head?_eq_none_iff.mp start.symm
  subst noneFree
  have preserved : ∀ t t',
      (∃ ready, Lists t ready [] ∧ t.connectionCounter = ready.length ∧
        ready.length ≤ maxConnection) → Effect build opens t t' →
      ∃ ready, Lists t' ready [] ∧ t'.connectionCounter = ready.length ∧
        ready.length ≤ maxConnection := by
    rintro t t' ⟨ready, lists, counter, few⟩ effect
    obtain ⟨ready', free', lists', moved⟩ := lists.effect effect
    generalize after : t'.connectionCounter = counter' at moved
    generalize before : t.connectionCounter = counter₀ at moved counter
    cases moved with
    | stay => exact ⟨ready, lists', counter, few⟩
    | fresh _ connect _ room =>
      refine ⟨connect :: ready, lists', ?_, ?_⟩
      · rw [counter, List.length_cons]
        omega
      · rw [counter] at room
        rw [List.length_cons]
        omega
  obtain ⟨ready', lists', counter', few'⟩ := effects.invariant preserved ⟨ready, lists, counter, few⟩
  exact ⟨ready', [], lists', counter', few'⟩

/-- Releasing an entry of `connect_ready` counts it. -/
theorem Counted.release {ready free : List Addr} {connect : Addr} (lists : Lists s ready free)
    (counter : s.connectionCounter = ready.length) (few : ready.length ≤ maxConnection)
    (member : connect ∈ ready) : Counted (s.freeConnection connect) := by
  obtain ⟨left, right, rfl⟩ := List.append_of_mem member
  rw [List.length_append, List.length_cons] at counter few
  refine ⟨left ++ right, _, lists.release, ?_, ?_⟩
  · have released : (s.freeConnection connect).connectionCounter = s.connectionCounter - 1 := rfl
    rw [released, counter, List.length_append]
    omega
  · rw [List.length_append]
    omega

end

/-- Every action that meets the condition keeps the counter right. -/
theorem Counted.step {build : Build} {sys sys' : System} {act : Act} (counted : Counted sys.server)
    (counts : Counts build sys act) (step : Step build sys act sys') : Counted sys'.server := by
  rcases step.cases with effects | ⟨r, req, connect, rfl, live, held, freed⟩ |
    ⟨now, rounds, sweep, rfl, swept, same⟩
  · by_cases needed : sys.NeedsEntry build act
    · exact counted.fresh (counts.login needed) effects
    · exact counted.quiet (effects.mono needed)
  · obtain ⟨ready, free, lists, counter, few⟩ := counted
    have member : connect ∈ ready := by
      rw [← lists.readyChain.chain.reaches_iff]
      exact counts.logout r connect rfl (by rw [Server.connectOf, live]; exact held)
    rw [freed]
    exact Counted.release lists counter few member
  · obtain ⟨ready, free, lists, counter, few⟩ := counted
    rw [same]
    rcases sweep_cases lists swept with ⟨-, rfl⟩ | ⟨left, c, right, rfl, -, -, -, rfl⟩
    · exact ⟨ready, free, lists, counter, few⟩
    · exact Counted.release lists counter few (by simp)

/-- In every run whose actions meet the condition, in every state reached: the counter is the
number of entries on `connect_ready`, it is not negative, and at most `MAX_CONNECTION` entries
are live. -/
theorem connectionCounter_counts {build : Build} {accounts : Nat → Account} {mode : Nat}
    {acts : List Act} {sys : System}
    (run : Run (Step build) (Counts build) (System.boot accounts mode) acts sys) :
    ∃ ready free, Lists sys.server ready free ∧ sys.server.connectionCounter = ready.length ∧
      0 ≤ sys.server.connectionCounter ∧ ready.length ≤ maxConnection := by
  have start : Counted (System.boot accounts mode).server :=
    ⟨[], [], Lists.boot accounts mode, rfl, Nat.zero_le _⟩
  have reached := Run.invariant (fun sys => Counted sys.server)
    (fun sys act sys' counted counts step => counted.step counts step) run start
  obtain ⟨ready, free, lists, counter, few⟩ := reached
  refine ⟨ready, free, lists, counter, ?_, few⟩
  rw [counter]
  exact Int.natCast_nonneg _

/-- Two users who log in from two addresses use fresh entries. -/
theorem connectionCounter_counts_two_visits :
    ∃ sys, Run (Step .small) (Counts .small) (System.boot smallAccounts 1)
        (visit 0 1 "admin:a" ++ visit 0 2 "bob:b") sys ∧ sys.server.connectionCounter = 2 ∧
      ∃ ready free, Lists sys.server ready free ∧ sys.server.connectionCounter = ready.length ∧
        0 ≤ sys.server.connectionCounter ∧ ready.length ≤ maxConnection := by
  obtain ⟨sys, run, facts⟩ := System.execAll_run .small 4
    (fun sys _ => sys.server.connectFree = none) (System.boot smallAccounts 1)
    (visit 0 1 "admin:a" ++ visit 0 2 "bob:b") (Counts .small)
    (fun sys => sys.server.connectionCounter = 2)
    (by
      intro act member sys checked
      refine ⟨fun _ => of_decide_eq_true checked, fun now a f swept => ?_, fun r connect out => ?_⟩
      · subst swept
        simp [visit] at member
      · subst out
        simp [visit] at member)
    (by decide)
  exact ⟨sys, run, of_decide_eq_true facts, connectionCounter_counts run⟩

/-- A login, a sweep that releases its entry, and a second login: there is an entry on
`connect_ready` and the counter is zero. -/
theorem connectionCounter_misses_reuse :
    ∃ sys ready free, Run (Step .small) (fun _ _ => True) (System.boot smallAccounts 1)
        (visit 0 1 "admin:a" ++ [.sweep 301] ++ visit 0 1 "admin:a") sys ∧
      Lists sys.server ready free ∧ sys.server.connectionCounter ≠ ready.length := by
  obtain ⟨sys, run, facts⟩ := System.execAll_run .small 4 (fun _ _ => true)
    (System.boot smallAccounts 1) (visit 0 1 "admin:a" ++ [.sweep 301] ++ visit 0 1 "admin:a")
    LogsOutReady (fun sys => sys.server.connectionCounter = 0 ∧ sys.server.connectReady = some 0)
    (by simp [visit, LogsOutReady]) (by decide)
  obtain ⟨counter, first⟩ := of_decide_eq_true facts
  obtain ⟨ready, free, lists⟩ := Lists.run run
  refine ⟨sys, ready, free, run.weaken fun _ _ _ => trivial, lists, ?_⟩
  have start := lists.readyChain.chain.head_eq
  rw [counter]
  cases ready with
  | nil => simp [first] at start
  | cons a ready =>
    rw [List.length_cons]
    omega

end BoaIpcam
