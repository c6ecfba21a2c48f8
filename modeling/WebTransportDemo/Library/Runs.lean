import Mathlib.Data.List.Basic

/-!
# Runs of a partial step function and the traces they leave

A system is a step function `σ → ε → Option σ`: `none` says that the event is not
enabled in the state. A run takes a list of events in order. This module holds the
induction rules for runs (an invariant, and an invariant kept only by the steps
that meet a condition), and `Justified`, the property that each entry of an
append-only trace is justified by the entries before it.
-/
namespace WebTransportDemo.Library

variable {σ ε α : Type*}

/-- Take the events in order; `none` as soon as one of them is not enabled. -/
def run (step : σ → ε → Option σ) (s : σ) : List ε → Option σ
  | [] => some s
  | event :: rest => (step s event).bind fun t => run step t rest

@[simp] theorem run_nil (step : σ → ε → Option σ) (s : σ) : run step s [] = some s := rfl

theorem run_cons_eq_some {step : σ → ε → Option σ} {s u : σ} {event : ε} {rest : List ε} :
    run step s (event :: rest) = some u ↔
      ∃ t, step s event = some t ∧ run step t rest = some u := by
  simp [run, Option.bind_eq_some_iff]

theorem run_append (step : σ → ε → Option σ) (s : σ) (first second : List ε) :
    run step s (first ++ second) = (run step s first).bind fun t => run step t second := by
  induction first generalizing s with
  | nil => rfl
  | cons event rest ih =>
    cases taken : step s event with
    | none => simp [run, taken]
    | some t => simp [run, taken, ih]

theorem run_trans {step : σ → ε → Option σ} {s t u : σ} {first second : List ε}
    (before : run step s first = some t) (after : run step t second = some u) :
    run step s (first ++ second) = some u := by
  rw [run_append, before]
  exact after

/-- Invariant rule: what holds at the start and is kept by every step holds at
the end of every run. -/
theorem run_invariant {step : σ → ε → Option σ} (invariant : σ → Prop)
    (preserved : ∀ s event t, invariant s → step s event = some t → invariant t)
    {s t : σ} {events : List ε} (start : invariant s) (reached : run step s events = some t) :
    invariant t := by
  induction events generalizing s with
  | nil =>
    simp only [run_nil, Option.some.injEq] at reached
    exact reached ▸ start
  | cons event rest ih =>
    obtain ⟨middle, taken, continued⟩ := run_cons_eq_some.mp reached
    exact ih (preserved s event middle start taken) continued

/-- Every step of the run meets `condition`, read on the state before the step. -/
def AllSteps (step : σ → ε → Option σ) (condition : σ → ε → Prop) : σ → List ε → Prop
  | _, [] => True
  | s, event :: rest =>
    condition s event ∧ ∀ t, step s event = some t → AllSteps step condition t rest

/-- Invariant rule for a run whose steps all meet a condition. -/
theorem run_invariant_of_allSteps {step : σ → ε → Option σ} {condition : σ → ε → Prop}
    (invariant : σ → Prop)
    (preserved : ∀ s event t, invariant s → condition s event → step s event = some t →
      invariant t)
    {s t : σ} {events : List ε} (start : invariant s) (meets : AllSteps step condition s events)
    (reached : run step s events = some t) : invariant t := by
  induction events generalizing s with
  | nil =>
    simp only [run_nil, Option.some.injEq] at reached
    exact reached ▸ start
  | cons event rest ih =>
    obtain ⟨middle, taken, continued⟩ := run_cons_eq_some.mp reached
    exact ih (preserved s event middle start meets.1 taken) (meets.2 middle taken) continued

/-- Each entry of the trace is justified by `past` and the entries before it. -/
def Justified (justifies : List α → α → Prop) : List α → List α → Prop
  | _, [] => True
  | past, entry :: rest => justifies past entry ∧ Justified justifies (past ++ [entry]) rest

@[simp] theorem justified_nil (justifies : List α → α → Prop) (past : List α) :
    Justified justifies past [] := trivial

theorem justified_append {justifies : List α → α → Prop} {past first second : List α} :
    Justified justifies past (first ++ second) ↔
      Justified justifies past first ∧ Justified justifies (past ++ first) second := by
  induction first generalizing past with
  | nil => simp
  | cons entry rest ih =>
    simp only [List.cons_append, Justified, ih, List.append_assoc, List.nil_append, and_assoc]

/-- The recursive form is the property of every split of the trace. -/
theorem justified_iff {justifies : List α → α → Prop} {past trace : List α} :
    Justified justifies past trace ↔
      ∀ before entry after, trace = before ++ entry :: after →
        justifies (past ++ before) entry := by
  induction trace generalizing past with
  | nil => simp
  | cons head tail ih =>
    simp only [Justified, ih]
    constructor
    · rintro ⟨first, later⟩ before entry after split
      cases before with
      | nil =>
        simp only [List.nil_append, List.cons.injEq] at split
        simpa [split.1] using first
      | cons b before =>
        simp only [List.cons_append, List.cons.injEq] at split
        simpa [split.1] using later before entry after split.2
    · intro every
      refine ⟨by simpa using every [] head tail rfl, ?_⟩
      intro before entry after split
      simpa using every (head :: before) entry after (by simp [split])

end WebTransportDemo.Library
