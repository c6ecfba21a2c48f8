import WebTransportDemo.Library.Runs

/-!
# Progress of runs that need not end

A system that nobody forces to move is free of deadlock when, in every state that is not yet
done, some step makes progress. Progress is measured by a number, the work left, that no step
increases. Two consequences are proved here: a state that is not done can be driven to completion, and
a schedule that takes as many progress steps as there was work has completed, whatever other
steps it interleaves.
-/
namespace WebTransportDemo.Library

variable {σ ε : Type*}

/-- The invariant is kept by every step, no step adds work, an event that `due` marks removes some,
and in a state that is not done some marked event is enabled. -/
structure Progressive (step : σ → ε → Option σ) (invariant : σ → Prop) (work : σ → Nat)
    (due : σ → ε → Bool) (done : σ → Prop) : Prop where
  preserved : ∀ s event t, invariant s → step s event = some t → invariant t
  bounded : ∀ s event t, invariant s → step s event = some t → work t ≤ work s
  decreases : ∀ s event t, invariant s → step s event = some t → due s event = true →
    work t < work s
  enabled : ∀ s, invariant s → ¬ done s → ∃ event t, step s event = some t ∧ due s event = true

/-- How many steps of the run were marked when they were taken. -/
def dueSteps (step : σ → ε → Option σ) (due : σ → ε → Bool) : σ → List ε → Nat
  | _, [] => 0
  | s, event :: rest =>
    (due s event).toNat + ((step s event).map fun t => dueSteps step due t rest).getD 0

namespace Progressive

variable {step : σ → ε → Option σ} {invariant : σ → Prop} {work : σ → Nat} {due : σ → ε → Bool}
  {done : σ → Prop}

/-- The marked steps of a run are paid for by the work that they removed. -/
theorem dueSteps_le (system : Progressive step invariant work due done) {s t : σ}
    {events : List ε} (start : invariant s) (reached : run step s events = some t) :
    dueSteps step due s events + work t ≤ work s := by
  induction events generalizing s with
  | nil =>
    simp only [run_nil, Option.some.injEq] at reached
    subst reached
    simp [dueSteps]
  | cons event rest ih =>
    obtain ⟨middle, taken, continued⟩ := run_cons_eq_some.mp reached
    have later := ih (system.preserved s event middle start taken) continued
    have kept := system.bounded s event middle start taken
    simp only [dueSteps, taken, Option.map_some, Option.getD_some]
    cases marked : due s event with
    | false =>
      simp only [Bool.toNat_false]
      omega
    | true =>
      have removed := system.decreases s event middle start taken marked
      simp only [Bool.toNat_true]
      omega

/-- Without work left nothing is due, so the state is done. -/
theorem done_of_work_eq_zero (system : Progressive step invariant work due done) {s : σ}
    (holds : invariant s) (nothing : work s = 0) : done s := by
  by_contra unfinished
  obtain ⟨event, t, taken, marked⟩ := system.enabled s holds unfinished
  have removed := system.decreases s event t holds taken marked
  omega

theorem done_of_dueSteps (system : Progressive step invariant work due done) {s t : σ}
    {events : List ε} (start : invariant s) (reached : run step s events = some t)
    (enough : work s ≤ dueSteps step due s events) : done t := by
  apply system.done_of_work_eq_zero (run_invariant invariant system.preserved start reached)
  have paid := system.dueSteps_le start reached
  omega

/-- Every state can be driven to completion: by induction on the work left. -/
theorem completable (system : Progressive step invariant work due done) {s : σ}
    (start : invariant s) : ∃ events t, run step s events = some t ∧ invariant t ∧ done t := by
  generalize left : work s = n
  induction n using Nat.strongRecOn generalizing s with
  | ind n ih =>
    by_cases finished : done s
    · exact ⟨[], s, rfl, start, finished⟩
    · obtain ⟨event, t, taken, marked⟩ := system.enabled s start finished
      have removed := system.decreases s event t start taken marked
      obtain ⟨rest, u, reached, holds, finished⟩ :=
        ih (work t) (by omega) (system.preserved s event t start taken) rfl
      exact ⟨event :: rest, u, run_cons_eq_some.mpr ⟨t, taken, reached⟩, holds, finished⟩

end Progressive

/-! ## Steps that meet a condition -/

section Restrict
variable (step : σ → ε → Option σ) (condition : σ → ε → Prop)

open Classical in
/-- The system that takes only the steps that meet a condition. -/
noncomputable def restrict (s : σ) (event : ε) : Option σ :=
  if condition s event then step s event else none

variable {step condition}

theorem restrict_eq_some {s t : σ} {event : ε} :
    restrict step condition s event = some t ↔ condition s event ∧ step s event = some t := by
  simp [restrict, Option.ite_none_right_eq_some]

theorem run_restrict {s t : σ} {events : List ε} :
    run (restrict step condition) s events = some t ↔
      AllSteps step condition s events ∧ run step s events = some t := by
  induction events generalizing s with
  | nil => simp [AllSteps]
  | cons event rest ih =>
    rw [run_cons_eq_some, run_cons_eq_some]
    constructor
    · rintro ⟨middle, taken, continued⟩
      obtain ⟨meets, stepped⟩ := restrict_eq_some.mp taken
      obtain ⟨later, reached⟩ := ih.mp continued
      refine ⟨⟨meets, fun other same => ?_⟩, middle, stepped, reached⟩
      rw [Option.some.inj (same.symm.trans stepped)]
      exact later
    · rintro ⟨⟨meets, later⟩, middle, stepped, reached⟩
      exact ⟨middle, restrict_eq_some.mpr ⟨meets, stepped⟩,
        ih.mpr ⟨later middle stepped, reached⟩⟩

/-- A condition on the events alone. -/
theorem run_restrict_events {allowed : ε → Prop} {s t : σ} {events : List ε} :
    run (restrict step fun _ event => allowed event) s events = some t ↔
      (∀ event ∈ events, allowed event) ∧ run step s events = some t := by
  induction events generalizing s with
  | nil => simp
  | cons event rest ih =>
    rw [run_cons_eq_some, run_cons_eq_some, List.forall_mem_cons]
    constructor
    · rintro ⟨middle, taken, continued⟩
      obtain ⟨meets, stepped⟩ := restrict_eq_some.mp taken
      obtain ⟨later, reached⟩ := ih.mp continued
      exact ⟨⟨meets, later⟩, middle, stepped, reached⟩
    · rintro ⟨⟨meets, later⟩, middle, stepped, reached⟩
      exact ⟨middle, restrict_eq_some.mpr ⟨meets, stepped⟩, ih.mpr ⟨later, reached⟩⟩

theorem dueSteps_restrict {due : σ → ε → Bool} {s t : σ} {events : List ε}
    (reached : run (restrict step condition) s events = some t) :
    dueSteps (restrict step condition) due s events = dueSteps step due s events := by
  induction events generalizing s with
  | nil => rfl
  | cons event rest ih =>
    obtain ⟨middle, taken, continued⟩ := run_cons_eq_some.mp reached
    simp only [dueSteps, taken, (restrict_eq_some.mp taken).2, Option.map_some, ih continued]

end Restrict

end WebTransportDemo.Library
