import Mathlib.Logic.Basic

/-!
# Runs of a transition system

A system is a relation between a state, an action and a next state. `Run` is the runs of the
actions of a list all of whose steps meet a guard, a condition on the state before the step
and on the action. An invariant of the guarded steps holds in every state such a run reaches.
`Throughout` is for systems that compute the next state: a property holds at every step.
-/
namespace TransitionSystem

variable {σ ι : Type} {step : σ → ι → σ → Prop} {guard guard' : σ → ι → Prop}

/-- The runs of a list of actions in which every step meets the guard. -/
inductive Run (step : σ → ι → σ → Prop) (guard : σ → ι → Prop) : σ → List ι → σ → Prop
  | stop (s : σ) : Run step guard s [] s
  | go {s next last : σ} {act : ι} {acts : List ι} (met : guard s act) (moved : step s act next)
      (rest : Run step guard next acts last) : Run step guard s (act :: acts) last

/-- What guarded steps preserve holds in every state a guarded run reaches. -/
theorem Run.invariant (inv : σ → Prop)
    (preserved : ∀ s act next, inv s → guard s act → step s act next → inv next)
    {s last : σ} {acts : List ι} (run : Run step guard s acts last) (start : inv s) :
    inv last := by
  induction run with
  | stop => exact start
  | go met moved _ ih => exact ih (preserved _ _ _ start met moved)

/-- A weaker guard admits the same runs. -/
theorem Run.weaken (weaker : ∀ s act, guard s act → guard' s act) {s last : σ} {acts : List ι}
    (run : Run step guard s acts last) : Run step guard' s acts last := by
  induction run with
  | stop s => exact .stop s
  | go met moved _ ih => exact .go (weaker _ _ met) moved ih

/-- A run goes on with one more step. -/
theorem Run.snoc {s mid last : σ} {acts : List ι} {act : ι} (run : Run step guard s acts mid)
    (met : guard mid act) (moved : step mid act last) : Run step guard s (acts ++ [act]) last := by
  induction run with
  | stop s => exact .go met moved (.stop last)
  | go met' moved' _ ih => exact .go met' moved' (ih met moved)

/-- Run the actions of a list with a function that makes one step, none when a step fails. -/
def execAll (exec : σ → ι → Option σ) : σ → List ι → Option σ
  | s, [] => some s
  | s, act :: acts => (exec s act).bind fun next => execAll exec next acts

/-- What the function computes is a run. -/
theorem Run.of_execAll {exec : σ → ι → Option σ} {s last : σ} {acts : List ι}
    (sound : ∀ s act next, act ∈ acts → exec s act = some next → guard s act ∧ step s act next)
    (done : execAll exec s acts = some last) : Run step guard s acts last := by
  induction acts generalizing s with
  | nil =>
    cases done
    exact .stop _
  | cons act acts ih =>
    obtain ⟨next, moved, rest⟩ := Option.bind_eq_some_iff.mp done
    obtain ⟨met, stepped⟩ := sound s act next List.mem_cons_self moved
    refine .go met stepped (ih ?_ rest)
    exact fun s act next member => sound s act next (List.mem_cons_of_mem _ member)

/-- A property of a state and an action holds at every step of the actions of a list, when the
next state is a function of both. -/
def Throughout (next : σ → ι → σ) (holds : σ → ι → Prop) : σ → List ι → Prop
  | _, [] => True
  | s, act :: acts => holds s act ∧ Throughout next holds (next s act) acts

variable {next : σ → ι → σ} {holds holds' : σ → ι → Prop}

/-- Equivalent properties hold throughout the same runs. -/
theorem throughout_congr (same : ∀ s act, holds s act ↔ holds' s act) {s : σ} {acts : List ι} :
    Throughout next holds s acts ↔ Throughout next holds' s acts := by
  induction acts generalizing s with
  | nil => exact Iff.rfl
  | cons act acts ih => exact and_congr (same s act) ih

/-- With an invariant that guarded steps preserve, what guarded steps do holds throughout the
guarded runs. -/
theorem Throughout.of_invariant (inv : σ → Prop)
    (step : ∀ s act, inv s → guard s act → holds s act ∧ inv (next s act)) {s : σ}
    {acts : List ι} (start : inv s) (run : Throughout next guard s acts) :
    Throughout next holds s acts := by
  induction acts generalizing s with
  | nil => trivial
  | cons act acts ih =>
    obtain ⟨held, kept⟩ := step s act start run.1
    exact ⟨held, ih kept run.2⟩

/-- What is true of every action of a run can be added to what holds at its steps. -/
theorem Throughout.and_mem {admits : ι → Prop} {s : σ} {acts : List ι}
    (all : ∀ act ∈ acts, admits act) (run : Throughout next holds s acts) :
    Throughout next (fun s act => admits act ∧ holds s act) s acts := by
  induction acts generalizing s with
  | nil => trivial
  | cons act acts ih =>
    have rest : ∀ later ∈ acts, admits later :=
      fun later member => all later (List.mem_cons_of_mem _ member)
    exact ⟨⟨all act List.mem_cons_self, run.1⟩, ih rest run.2⟩

/-- What guarded steps preserve holds after a guarded run. -/
theorem Throughout.foldl_invariant {inv : σ → Prop}
    (run : Throughout next holds s acts)
    (step : ∀ s act, inv s → holds s act → inv (next s act)) (start : inv s) :
    inv (acts.foldl next s) := by
  induction acts generalizing s with
  | nil => exact start
  | cons act acts ih => exact ih run.2 (step s act start run.1)

end TransitionSystem
