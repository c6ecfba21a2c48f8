import WebTransportDemo.Library.Runs

/-!
# Logs that may only speak of what has happened

A trace holds actions that accept an item on a channel and records that claim one was accepted. The
log is truthful when each record comes after the acceptance it claims, item by item and channel by
channel, and in the end nothing accepted is unrecorded. A trace in which every acceptance is at once
followed by its record is truthful; one in which some record comes before any is not, and no
continuation mends it. A run is then truthful just when all its steps are of the first kind.
-/
namespace WebTransportDemo.Library

variable {α κ β σ ε : Type*}

/-! ## Paired and premature traces -/

section
variable (accepts records : α → Option (κ × β))

/-- Every acceptance is at once followed by its record, and there are no other records. -/
inductive Paired : List α → Prop where
  | nil : Paired []
  | silent {action : α} {rest : List α} (unaccepted : accepts action = none)
      (unrecorded : records action = none) (later : Paired rest) : Paired (action :: rest)
  | pair {acceptance record : α} {rest : List α} {entry : κ × β}
      (accepted : accepts acceptance = some entry) (unrecorded : records acceptance = none)
      (unaccepted : accepts record = none) (recorded : records record = some entry)
      (later : Paired rest) : Paired (acceptance :: record :: rest)

/-- After a paired beginning, a record of something that was not accepted. -/
def Premature (trace : List α) : Prop :=
  ∃ before record after, trace = before ++ record :: after ∧ Paired accepts records before ∧
    records record ≠ none

end

section
variable {accepts records : α → Option (κ × β)}

theorem Paired.append {first second : List α} (begins : Paired accepts records first)
    (continues : Paired accepts records second) : Paired accepts records (first ++ second) := by
  induction begins with
  | nil => exact continues
  | silent unaccepted unrecorded _ ih => exact .silent unaccepted unrecorded ih
  | pair accepted unrecorded unaccepted recorded _ ih =>
    exact .pair accepted unrecorded unaccepted recorded ih

theorem Premature.append {trace : List α} (premature : Premature accepts records trace)
    (more : List α) : Premature accepts records (trace ++ more) := by
  obtain ⟨before, record, after, rfl, paired, recorded⟩ := premature
  exact ⟨before, record, after ++ more, by simp, paired, recorded⟩

theorem Paired.append_premature {first second : List α} (begins : Paired accepts records first)
    (premature : Premature accepts records second) : Premature accepts records (first ++ second) := by
  obtain ⟨before, record, after, rfl, paired, recorded⟩ := premature
  exact ⟨first ++ before, record, after, by simp, begins.append paired, recorded⟩

end

/-! ## Truthful traces -/

variable [DecidableEq κ]

/-- The items that a view of the actions shows on one channel, in order. -/
def entries (view : α → Option (κ × β)) (channel : κ) (trace : List α) : List β :=
  trace.filterMap fun action =>
    match view action with
    | some (on, item) => if on = channel then some item else none
    | none => none

@[simp] theorem entries_append (view : α → Option (κ × β)) (channel : κ) (first second : List α) :
    entries view channel (first ++ second) =
      entries view channel first ++ entries view channel second :=
  List.filterMap_append

@[simp] theorem entries_nil (view : α → Option (κ × β)) (channel : κ) :
    entries view channel [] = [] := rfl

theorem entries_cons_none {view : α → Option (κ × β)} {action : α} (silent : view action = none)
    (channel : κ) (rest : List α) :
    entries view channel (action :: rest) = entries view channel rest := by
  simp [entries, silent]

theorem entries_cons_some {view : α → Option (κ × β)} {action : α} {on : κ} {item : β}
    (shown : view action = some (on, item)) (channel : κ) (rest : List α) :
    entries view channel (action :: rest) =
      if on = channel then item :: entries view channel rest else entries view channel rest := by
  by_cases same : on = channel <;> simp [entries, shown, same]

section
variable (accepts records : α → Option (κ × β))

/-- A record claims the next item that was accepted on its channel and not yet recorded. -/
def Announced (past : List α) (action : α) : Prop :=
  ∀ channel item, records action = some (channel, item) →
    entries records channel past ++ [item] <+: entries accepts channel past

structure Truthful (trace : List α) : Prop where
  each : ∀ before action after, trace = before ++ action :: after →
    Announced accepts records before action
  every : ∀ channel, entries records channel trace = entries accepts channel trace

end

variable {accepts records : α → Option (κ × β)}

theorem Paired.balanced {trace : List α} (paired : Paired accepts records trace) (channel : κ) :
    entries records channel trace = entries accepts channel trace := by
  induction paired with
  | nil => rfl
  | silent unaccepted unrecorded _ ih =>
    rw [entries_cons_none unrecorded, entries_cons_none unaccepted, ih]
  | pair accepted unrecorded unaccepted recorded _ ih =>
    rw [entries_cons_none unrecorded, entries_cons_some recorded, entries_cons_some accepted,
      entries_cons_none unaccepted, ih]

theorem Paired.justified {trace past : List α} (paired : Paired accepts records trace)
    (before : ∀ channel, entries records channel past = entries accepts channel past) :
    Justified (Announced accepts records) past trace := by
  induction paired generalizing past with
  | nil => trivial
  | @silent action rest unaccepted unrecorded _ ih =>
    constructor
    · intro channel item shown
      rw [unrecorded] at shown
      cases shown
    · apply ih
      intro channel
      rw [entries_append, entries_append, before, entries_cons_none unrecorded,
        entries_cons_none unaccepted]
      rfl
  | @pair acceptance record rest entry accepted unrecorded unaccepted recorded _ ih =>
    have balanced : ∀ channel, entries records channel (past ++ [acceptance] ++ [record]) =
        entries accepts channel (past ++ [acceptance] ++ [record]) := by
      intro channel
      simp only [entries_append, before, entries_cons_none unrecorded,
        entries_cons_some recorded, entries_cons_some accepted, entries_cons_none unaccepted,
        entries_nil, List.append_nil]
    refine ⟨?_, ?_, ih balanced⟩
    · intro channel item shown
      rw [unrecorded] at shown
      cases shown
    · intro channel item shown
      rw [recorded] at shown
      cases shown
      rw [entries_append, entries_append, before, entries_cons_none unrecorded,
        entries_cons_some accepted]
      simp

theorem Paired.truthful {trace : List α} (paired : Paired accepts records trace) :
    Truthful accepts records trace := by
  refine ⟨?_, paired.balanced⟩
  intro before action after split
  have lawful : Justified (Announced accepts records) [] trace := paired.justified fun _ => rfl
  have own := justified_iff.mp lawful before action after split
  rwa [List.nil_append] at own

/-- A record that nothing accepted backs cannot be mended. -/
theorem Premature.untruthful {trace : List α} (premature : Premature accepts records trace) :
    ¬ Truthful accepts records trace := by
  intro truthful
  obtain ⟨before, record, after, split, paired, recorded⟩ := premature
  obtain ⟨⟨channel, item⟩, shown⟩ := Option.ne_none_iff_exists'.mp recorded
  have claimed := (truthful.each before record after split channel item shown).length_le
  rw [List.length_append, paired.balanced channel, List.length_singleton] at claimed
  omega

/-- Run rule: where a step that meets the condition adds a paired piece and keeps an invariant, and a
step that does not adds a premature one, the truthful runs are those all of whose steps meet it. -/
theorem truthful_iff_allSteps {step : σ → ε → Option σ} {condition : σ → ε → Prop}
    (trace : σ → List α) (invariant : σ → Prop)
    (grows : ∀ s event t, step s event = some t → ∃ more, trace t = trace s ++ more)
    (steps : ∀ s event t, invariant s → step s event = some t →
      (condition s event → invariant t ∧
        ∃ more, trace t = trace s ++ more ∧ Paired accepts records more) ∧
      (¬ condition s event →
        ∃ more, trace t = trace s ++ more ∧ Premature accepts records more))
    {s t : σ} {events : List ε} (start : invariant s) (begun : Paired accepts records (trace s))
    (reached : run step s events = some t) :
    Truthful accepts records (trace t) ↔ AllSteps step condition s events := by
  have stays : ∀ {s t : σ} {events : List ε}, Premature accepts records (trace s) →
      run step s events = some t → Premature accepts records (trace t) := by
    intro s t events premature ran
    refine run_invariant (fun s => Premature accepts records (trace s)) ?_ premature ran
    intro s event after held taken
    obtain ⟨more, added⟩ := grows s event after taken
    rw [added]
    exact held.append more
  induction events generalizing s with
  | nil =>
    simp only [run_nil, Option.some.injEq] at reached
    subst reached
    exact ⟨fun _ => trivial, fun _ => begun.truthful⟩
  | cons event rest ih =>
    obtain ⟨middle, taken, continued⟩ := run_cons_eq_some.mp reached
    obtain ⟨good, bad⟩ := steps s event middle start taken
    by_cases meets : condition s event
    · obtain ⟨kept, more, added, paired⟩ := good meets
      have paired : Paired accepts records (trace middle) := by
        rw [added]
        exact begun.append paired
      have later := ih kept paired continued
      constructor
      · intro truthful
        refine ⟨meets, fun next reached => ?_⟩
        rw [taken, Option.some.injEq] at reached
        exact reached ▸ later.mp truthful
      · intro all
        exact later.mpr (all.2 middle taken)
    · obtain ⟨more, added, premature⟩ := bad meets
      have premature : Premature accepts records (trace middle) := by
        rw [added]
        exact begun.append_premature premature
      constructor
      · intro truthful
        exact absurd truthful (stays premature continued).untruthful
      · intro all
        exact absurd all.1 meets

end WebTransportDemo.Library
