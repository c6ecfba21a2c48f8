import Mathlib.Algebra.GroupWithZero.Nat
import WebTransportDemo.Library.Runs

/-!
# A pool of independent components

Components of one kind are created one after the other and then step independently of each
other, in any order. What a run of the pool does to one component is a run of that component,
on the events addressed to it, so what is known of the runs of one component holds for
each component in every interleaving.
-/
namespace WebTransportDemo.Library

variable {σ ε ι : Type*}

inductive PoolEvent (ι ε : Type*) where
  | add (parameters : ι)
  /-- An event of the component created as the `index`-th. -/
  | component (index : Nat) (event : ε)
  deriving DecidableEq, Repr

def poolStep (create : ι → σ) (step : σ → ε → Option σ) (pool : List σ) :
    PoolEvent ι ε → Option (List σ)
  | .add parameters => some (pool ++ [create parameters])
  | .component index event =>
    (pool[index]?).bind fun s => (step s event).map fun t => pool.set index t

/-- The events addressed to one component. -/
def eventsOf (index : Nat) (events : List (PoolEvent ι ε)) : List ε :=
  events.filterMap fun
    | .add _ => none
    | .component addressed event => if addressed = index then some event else none

variable {create : ι → σ} {step : σ → ε → Option σ}

/-- What a step can do: a component is added, or one component takes a step of its own. -/
theorem poolStep_cases {pool after : List σ} {event : PoolEvent ι ε}
    (taken : poolStep create step pool event = some after) :
    (∃ parameters, event = .add parameters ∧ after = pool ++ [create parameters]) ∨
    (∃ index moved s t, event = .component index moved ∧ pool[index]? = some s ∧
      step s moved = some t ∧ after = pool.set index t) := by
  cases event with
  | add parameters =>
    left
    exact ⟨parameters, rfl, by simpa [poolStep] using taken.symm⟩
  | component index moved =>
    right
    simp only [poolStep, Option.bind_eq_some_iff, Option.map_eq_some_iff] at taken
    obtain ⟨s, present, t, stepped, rfl⟩ := taken
    exact ⟨index, moved, s, t, rfl, present, stepped, rfl⟩

theorem poolStep_component {pool : List σ} {index : Nat} {event : ε} {s t : σ}
    (present : pool[index]? = some s) (taken : step s event = some t) :
    poolStep create step pool (.component index event) = some (pool.set index t) := by
  simp [poolStep, present, taken]

/-- An invariant that every new component has, and that every step of a component keeps, holds of
all components of the pool. -/
theorem pool_invariant {invariant : σ → Prop} (created : ∀ parameters, invariant (create parameters))
    (preserved : ∀ s event t, invariant s → step s event = some t → invariant t)
    {pool after : List σ} {events : List (PoolEvent ι ε)} (start : ∀ s ∈ pool, invariant s)
    (reached : run (poolStep create step) pool events = some after) :
    ∀ s ∈ after, invariant s := by
  apply run_invariant (fun pool => ∀ s ∈ pool, invariant s) _ start reached
  intro pool event after all taken s member
  rcases poolStep_cases taken with ⟨parameters, rfl, rfl⟩ |
    ⟨index, moved, before, t, rfl, present, stepped, rfl⟩
  · rcases List.mem_append.mp member with old | new
    · exact all s old
    · rw [List.mem_singleton.mp new]
      exact created parameters
  · rcases List.mem_or_eq_of_mem_set member with old | rfl
    · exact all s old
    · exact preserved before moved s (all before (List.mem_of_getElem? present)) stepped

/-- A run of the pool is, on each component, a run on the events addressed to it. -/
theorem run_component {pool after : List σ} {events : List (PoolEvent ι ε)} {index : Nat} {s : σ}
    (reached : run (poolStep create step) pool events = some after)
    (present : pool[index]? = some s) :
    ∃ t, after[index]? = some t ∧ run step s (eventsOf index events) = some t := by
  induction events generalizing pool s with
  | nil =>
    simp only [run_nil, Option.some.injEq] at reached
    subst reached
    exact ⟨s, present, rfl⟩
  | cons event rest ih =>
    obtain ⟨middle, taken, continued⟩ := run_cons_eq_some.mp reached
    rcases poolStep_cases taken with ⟨parameters, rfl, rfl⟩ |
      ⟨addressed, moved, before, stepped, rfl, held, moves, rfl⟩
    · have kept : (pool ++ [create parameters])[index]? = some s := by
        rw [List.getElem?_append_left (List.getElem?_eq_some_iff.mp present).1]
        exact present
      exact ih continued kept
    · by_cases same : addressed = index
      · subst same
        have before_eq : before = s := Option.some.inj (held.symm.trans present)
        subst before_eq
        have replaced : (pool.set addressed stepped)[addressed]? = some stepped := by
          rw [List.getElem?_set_self (List.getElem?_eq_some_iff.mp present).1]
        obtain ⟨t, final, ran⟩ := ih continued replaced
        refine ⟨t, final, ?_⟩
        have addressed_here : eventsOf addressed (.component addressed moved :: rest) =
            moved :: eventsOf addressed rest := by
          simp [eventsOf]
        rw [addressed_here]
        exact run_cons_eq_some.mpr ⟨stepped, moves, ran⟩
      · have untouched : (pool.set addressed stepped)[index]? = some s := by
          rw [List.getElem?_set_ne same]
          exact present
        have elsewhere : eventsOf index (.component addressed moved :: rest) =
            eventsOf index rest := by
          simp [eventsOf, same]
        rw [elsewhere]
        exact ih continued untouched

/-- A run of one component is a run of the pool. -/
theorem run_pool (create : ι → σ) {pool : List σ} {index : Nat} {s t : σ} {events : List ε}
    (present : pool[index]? = some s) (reached : run step s events = some t) :
    run (poolStep create step) pool (events.map (PoolEvent.component index)) =
      some (pool.set index t) := by
  induction events generalizing pool s with
  | nil =>
    simp only [run_nil, Option.some.injEq] at reached
    subst reached
    have bound := (List.getElem?_eq_some_iff.mp present).1
    have kept : pool.set index s = pool := by
      rw [← (List.getElem?_eq_some_iff.mp present).2]
      exact List.set_getElem_self bound
    rw [kept]
    rfl
  | cons event rest ih =>
    obtain ⟨middle, taken, continued⟩ := run_cons_eq_some.mp reached
    have replaced : (pool.set index middle)[index]? = some middle := by
      rw [List.getElem?_set_self (List.getElem?_eq_some_iff.mp present).1]
    have later := ih replaced continued
    rw [List.set_set] at later
    exact run_cons_eq_some.mpr ⟨_, poolStep_component present taken, later⟩

/-- What one component keeps as it changes, all of them keep. -/
theorem map_set_unchanged {β : Type*} (f : σ → β) {members : List σ} {index : Nat} {s t : σ}
    (present : members[index]? = some s) (same : f t = f s) :
    (members.set index t).map f = members.map f := by
  refine List.ext_getElem? fun other => ?_
  rw [List.getElem?_map, List.getElem?_map]
  by_cases here : index = other
  · subst here
    rw [List.getElem?_set_self (List.getElem?_eq_some_iff.mp present).1, present, Option.map_some,
      Option.map_some, same]
  · rw [List.getElem?_set_ne here]

/-- A number for each component, added up, when one component changes. -/
theorem sum_map_set (f : σ → Nat) {members : List σ} {index : Nat} {s : σ}
    (present : members[index]? = some s) (t : σ) :
    ((members.set index t).map f).sum + f s = (members.map f).sum + f t := by
  induction members generalizing index with
  | nil => simp at present
  | cons first rest ih =>
    cases index with
    | zero =>
      simp only [List.getElem?_cons_zero, Option.some.injEq] at present
      subst present
      simp only [List.set_cons_zero, List.map_cons, List.sum_cons]
      omega
    | succ index =>
      rw [List.getElem?_cons_succ] at present
      have later := ih present
      simp only [List.set_cons_succ, List.map_cons, List.sum_cons]
      omega

/-- When each component can reach its goal, all of them can, one after the other. The components in
`settled` have reached it. -/
theorem pool_completable {invariant done : σ → Prop}
    (each : ∀ s, invariant s → ∃ events t, run step s events = some t ∧ done t)
    {settled members : List σ} (all : ∀ s ∈ members, invariant s) (reachedGoal : ∀ s ∈ settled, done s) :
    ∃ (events : List (PoolEvent ι ε)) (after : List σ),
      run (poolStep create step) (settled ++ members) events = some after ∧ ∀ s ∈ after, done s := by
  induction members generalizing settled with
  | nil => exact ⟨[], settled ++ [], rfl, by simpa using reachedGoal⟩
  | cons s rest ih =>
    obtain ⟨events, t, reached, finished⟩ := each s (all s List.mem_cons_self)
    have here : (settled ++ s :: rest)[settled.length]? = some s := by simp
    have first := run_pool create here reached
    have replaced : (settled ++ s :: rest).set settled.length t = settled ++ [t] ++ rest := by simp
    rw [replaced] at first
    have settled_done : ∀ u ∈ settled ++ [t], done u := by
      intro u member
      rcases List.mem_append.mp member with old | new
      · exact reachedGoal u old
      · rw [List.mem_singleton.mp new]
        exact finished
    obtain ⟨later, after, continued, every⟩ :=
      ih (fun u member => all u (List.mem_cons_of_mem s member)) settled_done
    exact ⟨_, after, run_trans first continued, every⟩

end WebTransportDemo.Library
