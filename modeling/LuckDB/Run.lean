/-!
# Runs of a step function

A run is a fold of a step function over a list of steps.  `Guarded step g s steps` says that each
step of the run from `s` satisfies `g` in the state it starts from, and `Guarded.invariant` lifts
an invariant that every guarded step keeps to every guarded run.
-/

namespace LuckDB

/-- Every step of the run of `steps` from `s` satisfies `g` in the state it starts from. -/
def Guarded {σ α : Type} (step : σ → α → σ) (g : σ → α → Prop) : σ → List α → Prop
  | _, [] => True
  | s, a :: as => g s a ∧ Guarded step g (step s a) as

instance Guarded.decidable {σ α : Type} (step : σ → α → σ) (g : σ → α → Prop)
    [∀ s a, Decidable (g s a)] : (s : σ) → (as : List α) → Decidable (Guarded step g s as)
  | _, [] => isTrue trivial
  | s, a :: as => @instDecidableAnd _ _ _ (Guarded.decidable step g (step s a) as)

/-- An invariant that every guarded step keeps holds after every guarded run. -/
theorem Guarded.invariant {σ α : Type} {step : σ → α → σ} {g : σ → α → Prop} (I : σ → Prop)
    (hstep : ∀ s a, I s → g s a → I (step s a)) {s : σ} {as : List α}
    (hg : Guarded step g s as) (hi : I s) : I (as.foldl step s) := by
  induction as generalizing s with
  | nil => exact hi
  | cons a as ih =>
    obtain ⟨hg₁, hg₂⟩ := hg
    exact ih hg₂ (hstep s a hi hg₁)

end LuckDB
