import Mathlib.Logic.Basic

/-!
# Loops that may not end

A loop makes rounds until one of them has a result. It is run with a number of rounds; it ends with
a result when some number of rounds is enough. The result does not depend on that number, and a loop
whose rounds all keep an invariant that rules results out does not end.
-/
namespace Rounds

variable {σ ρ : Type}

/-- What a round leads to: the next state or the result of the loop. -/
inductive Round (σ ρ : Type) where
  | next (state : σ)
  | done (result : ρ)

/-- The loop with at most the given number of rounds. -/
def run (round : σ → Round σ ρ) : Nat → σ → Option ρ
  | 0, _ => none
  | rounds + 1, state =>
    match round state with
    | .next state => run round rounds state
    | .done result => some result

/-- The loop ends with a result. -/
def Ends (round : σ → Round σ ρ) (state : σ) (result : ρ) : Prop :=
  ∃ rounds, run round rounds state = some result

variable {round : σ → Round σ ρ} {state later : σ} {result : ρ}

/-- A loop whose round has a result ends with it and with no other. -/
theorem ends_done (done : round state = .done result) {other : ρ} :
    Ends round state other ↔ other = result := by
  constructor
  · rintro ⟨_ | rounds, ran⟩
    · exact absurd ran (Option.some_ne_none other).symm
    · rw [run, done] at ran
      exact (Option.some.inj ran).symm
  · rintro rfl
    exact ⟨1, by rw [run, done]⟩

/-- A loop that goes on ends as it does from the next state. -/
theorem ends_next (next : round state = .next later) :
    Ends round state result ↔ Ends round later result := by
  constructor
  · rintro ⟨_ | rounds, ran⟩
    · exact absurd ran (Option.some_ne_none result).symm
    · rw [run, next] at ran
      exact ⟨rounds, ran⟩
  · rintro ⟨rounds, ran⟩
    refine ⟨rounds + 1, ?_⟩
    rw [run, next]
    exact ran

/-- A loop whose rounds keep an invariant and go on does not end. -/
theorem not_ends (inv : σ → Prop)
    (kept : ∀ state, inv state → ∃ later, round state = .next later ∧ inv later)
    (start : inv state) : ¬ Ends round state result := by
  rintro ⟨rounds, ran⟩
  induction rounds generalizing state with
  | zero => exact absurd ran (Option.some_ne_none result).symm
  | succ rounds ih =>
    obtain ⟨later, stepped, still⟩ := kept state start
    rw [run, stepped] at ran
    exact ih still ran

end Rounds
