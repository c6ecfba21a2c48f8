import WebTransportDemo.Library.Runs

/-!
# Forward simulation

A concrete system refines a specification when every step of it is matched by a run of the
specification, on the actions that the step stands for, between the views of the two states. The
concrete steps may be promised to meet a condition, and the states to keep an invariant. Whole
runs are then matched by runs of the specification, so a safety property of the specification is
one of the views, and two runs that stand for the same actions end in the same view.
-/
namespace WebTransportDemo.Library

variable {σ ε τ α : Type*}

/-- The actions that the steps of a run stand for, one after the other. -/
def actionsOf (step : σ → ε → Option σ) (actions : σ → ε → List α) : σ → List ε → List α
  | _, [] => []
  | s, event :: rest =>
    actions s event ++ ((step s event).map fun t => actionsOf step actions t rest).getD []

theorem actionsOf_cons {step : σ → ε → Option σ} {actions : σ → ε → List α} {s t : σ} {event : ε}
    {rest : List ε} (taken : step s event = some t) :
    actionsOf step actions s (event :: rest) = actions s event ++ actionsOf step actions t rest := by
  simp [actionsOf, taken]

theorem allSteps_cons {step : σ → ε → Option σ} {condition : σ → ε → Prop} {s t : σ} {event : ε}
    {rest : List ε} (taken : step s event = some t) :
    AllSteps step condition s (event :: rest) ↔
      condition s event ∧ AllSteps step condition t rest := by
  simp [AllSteps, taken]

/-- Every step that meets the condition keeps the invariant and is matched by a run of `spec`. -/
structure Simulates (step : σ → ε → Option σ) (condition : σ → ε → Prop) (invariant : σ → Prop)
    (spec : τ → α → Option τ) (view : σ → τ) (actions : σ → ε → List α) : Prop where
  preserved : ∀ s event t, invariant s → condition s event → step s event = some t → invariant t
  matched : ∀ s event t, invariant s → condition s event → step s event = some t →
    run spec (view s) (actions s event) = some (view t)

namespace Simulates

variable {step : σ → ε → Option σ} {condition : σ → ε → Prop} {invariant : σ → Prop}
  {spec : τ → α → Option τ} {view : σ → τ} {actions : σ → ε → List α}

/-- A run of the concrete system is a run of the specification. -/
theorem run_matched (system : Simulates step condition invariant spec view actions) {s t : σ}
    {events : List ε} (start : invariant s) (meets : AllSteps step condition s events)
    (reached : run step s events = some t) :
    run spec (view s) (actionsOf step actions s events) = some (view t) := by
  induction events generalizing s with
  | nil =>
    simp only [run_nil, Option.some.injEq] at reached
    rw [reached]
    rfl
  | cons event rest ih =>
    obtain ⟨middle, taken, continued⟩ := run_cons_eq_some.mp reached
    have first := system.matched s event middle start meets.1 taken
    have kept := system.preserved s event middle start meets.1 taken
    rw [actionsOf_cons taken]
    exact run_trans first (ih kept (meets.2 middle taken) continued)

/-- What every step of the specification keeps holds of the view at the end of every run. -/
theorem run_view (system : Simulates step condition invariant spec view actions)
    {safe : τ → Prop} (safeKept : ∀ s action t, safe s → spec s action = some t → safe t) {s t : σ}
    {events : List ε} (start : invariant s) (safeStart : safe (view s))
    (meets : AllSteps step condition s events) (reached : run step s events = some t) :
    safe (view t) :=
  run_invariant safe safeKept safeStart (system.run_matched start meets reached)

end Simulates

end WebTransportDemo.Library
